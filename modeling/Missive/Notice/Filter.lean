import Missive.Notice
import Missive.Notice.Pattern
import Missive.Text.Alphanumeric
import Missive.Text.Blank
import Missive.Text.Split
/-!
# Log filters

Which notices a log shows is set by a text: directives with commas between them.  A directive is a
level, or a target with a level; behind the target it may ask in brackets for a span that the
notice is in, or in braces for a field that it has.  The most specific directive that fits decides.

* `Notice.Filter`, `Notice.Filter.read?` -- filters and their notation;
* `Notice.Filter.threshold?`, `Notice.Filter.shows` -- the level that a filter sets for a target,
  and the notices it lets through;
* `Notice.Filter.ofSetting` -- the filter of an optional setting.

No notice is in a span, and the only field of a notice is its message.
-/

namespace Missive.Notice

/-- The level that is set for all targets that start with a text, or `none` for nothing. -/
structure Rule where
  target : String
  /-- The field that a notice must have, if any. -/
  field : Option String
  level : Option Level
  deriving DecidableEq, Repr

/-- A filter: its rules in the order in which they are set. -/
abbrev Filter := List Rule

/-- The words for levels. -/
def levelWords : List (String × Option Level) :=
  [("off", none), ("error", some .error), ("warn", some .warn), ("info", some .info),
   ("debug", some .debug), ("trace", some .trace)]

/-- The levels by their numbers. -/
def numberedLevels : List (Option Level) :=
  levelWords.map Prod.snd

/-- The level that a number or a word stands for, the word in any case. -/
def level? (word : List Char) : Option (Option Level) :=
  match Decimal.readCount word with
  | .ok n => numberedLevels[n]?
  | .error _ => levelWords.lookup (String.ofList (word.map Char.toLower))

/-- Whether a character can start a target. -/
def isTargetStart (c : Char) : Bool :=
  Text.isAlphanumeric c || c == '_' || c == ':' || c == '-'

/-- The field of a notice that holds its text. -/
def messageField : String := "message"

namespace Filter

/-- A directive without the blanks around it, and what was taken off. -/
structure Trimmed where
  core : List Char
  /-- Whether there were blanks in front; they shift all that is read from the directive, so that
  it fits nothing. -/
  shifted : Bool
  /-- The blanks at the end, which count as part of the level or the target there. -/
  ending : List Char

/-- Takes the blanks off a directive. -/
def Trimmed.of (directive : List Char) : Trimmed :=
  let later := directive.dropWhile Text.isBlank
  let core := Text.trimEnd later
  ⟨core, later.length < directive.length, later.drop core.length⟩

/-- The level behind an equals sign; without one, everything is shown. -/
def Trimmed.level? (d : Trimmed) (word : List Char) : Option (Option Level) :=
  if d.shifted then none
  else if (word ++ d.ending).isEmpty then some (some .trace)
  else Notice.level? (word ++ d.ending)

/-- The level behind a closing bracket. -/
def Trimmed.levelBehind? (d : Trimmed) : List Char → Option (Option Level)
  | [] => some (some .trace)
  | '=' :: word => d.level? word
  | _ => none

/-- The rule for a field, which must have a name or a value; one that asks for a value fits no
notice. -/
def fieldRules? (target field : List Char) (level : Option Level) : Option Filter :=
  if field.isEmpty then none
  else
    match Text.splitOnce '=' field with
    | none => some [⟨String.ofList target, some (String.ofList field), level⟩]
    | some (_, value) => if isPattern (value.takeWhile (· != '=')) then some [] else none

/-- The rules of a directive from behind its opening bracket; one that names a span fits no
notice. -/
def bracketRules? (d : Trimmed) (target cs : List Char) : Option Filter :=
  let name := cs.takeWhile fun c => c != ']' && c != '{'
  match cs.drop name.length with
  | ']' :: rest => (d.levelBehind? rest).map fun _ => []
  | '{' :: rest =>
    let field := rest.takeWhile (· != '}')
    match rest.drop field.length with
    | '}' :: ']' :: rest => do
      let level ← d.levelBehind? rest
      let rules ← fieldRules? target field level
      some (if name.isEmpty && !d.shifted then rules else [])
    | _ => none
  | _ => none

/-- The rules that a directive sets.  A target without a level shows everything. -/
def rules? (directive : List Char) : Option Filter :=
  let d := Trimmed.of directive
  match d.core with
  | [] => none
  | '[' :: rest => bracketRules? d [] rest
  | c :: _ =>
    if !isTargetStart c then none
    else
      let target := d.core.takeWhile fun c => c != '=' && c != '['
      match d.core.drop target.length with
      | '=' :: word => (d.level? word).map fun level => [⟨String.ofList target, none, level⟩]
      | '[' :: rest => bracketRules? d target rest
      | _ =>
        match Notice.level? directive with
        | some level => some [⟨"", none, level⟩]
        | none => some [⟨String.ofList directive, none, some .trace⟩]

/-- The filter that shows errors only. -/
def errorsOnly : Filter := [⟨"", none, some .error⟩]

/-- The filter that a text describes. -/
def read? (text : String) : Option Filter :=
  match (Text.pieces ',' text.toList).filter (!·.isEmpty) with
  | [] => some errorsOnly
  | directives => (directives.mapM rules?).map List.flatten

/-- The filter used when nothing is set. -/
def standard : Filter := [⟨"", none, some .info⟩]

/-- The filter of a setting; one that cannot be read counts as none. -/
def ofSetting (setting : Option String) : Filter :=
  (setting.bind read?).getD standard

/-- Whether a rule is about notices with this target. -/
def fits (target : String) (r : Rule) : Bool :=
  target.startsWith r.target && r.field.all (· == messageField)

/-- The better of two rules for a target: the one with the longer target, or else with a field, or
else the later one. -/
def better (best : Option Rule) (r : Rule) : Option Rule :=
  match best with
  | none => some r
  | some b =>
    if b.target.length < r.target.length
        ∨ (b.target.length = r.target.length ∧ (b.field.isNone ∨ r.field.isSome)) then some r
    else best

/-- The level that a filter sets for a target. -/
def threshold? (f : Filter) (target : String) : Option Level :=
  ((f.filter (fits target)).foldl better none).bind Rule.level

/-- Whether a filter shows a notice. -/
def shows (f : Filter) (n : Notice) : Bool :=
  (f.threshold? n.area.target).any (·.admits n.level)

end Filter

end Missive.Notice
