import Mathlib.Logic.Relation
import Missive.Proofs.Assignments
import Missive.Proofs.Overlays
/-!
# Definitions one below the other, and their layout

Two definitions with a line feed between them are read as one, which declares what they declare, in
this order.  What is between the declarations does not matter: blanks around a line, empty lines and
comments, and the form of the line ends change nothing but the text itself.

* `Message.followedBy` -- two messages as one;
* `LayoutChange` -- one change to a text that no declaration sees;
* `Resolver.significantLines_layoutChange`, `Resolver.significantLines_layoutChanges` -- one change,
  and any number of them;
* `Resolver.readMessage_layout` -- joined definitions, and definitions laid out differently.
-/

namespace Missive

/-! ## Two messages as one -/

namespace Message

/-- Two messages as one: the lines of the second one stand below those of the first one, and its
imports count first. -/
def followedBy (m k : Message) : Message where
  package := m.package
  name := m.name
  text := m.text ++ "\n" ++ k.text
  fields := m.fields ++ k.fields
  constants := m.constants ++ k.constants
  dependencies := m.dependencies.insertAll k.dependencies.entries

theorem followedBy_ofEntries (package name above below : String) (as bs : List Entry) :
    (ofEntries package name above as).followedBy (ofEntries package name below bs)
      = ofEntries package name (above ++ "\n" ++ below) (as ++ bs) := by
  simp only [followedBy, ofEntries, List.filterMap_append, Dictionary.ofList_append]

/-- What two messages declare, and what they import. -/
theorem followedBy_flags (m k : Message) :
    (m.followedBy k).hasBuiltin = (m.hasBuiltin || k.hasBuiltin) ∧
    (m.followedBy k).hasArray = (m.hasArray || k.hasArray) ∧
    (m.followedBy k).hasFixedArray = (m.hasFixedArray || k.hasFixedArray) :=
  ⟨List.any_append, List.any_append, List.any_append⟩

end Message

namespace Resolver

variable (r : Resolver)

/-- Reading a definition from the bytes of a text is reading it from the text. -/
theorem readMessage_encode (name text : String) :
    r.readMessage name (Text.Utf8.encode text) = r.readMessageText name text := by
  rw [readMessage, Text.Utf8.decode_encode]

theorem readMessageText_append (name above below : String) :
    r.readMessageText name (above ++ "\n" ++ below) = do
      let m ← r.readMessageText name above
      let k ← r.readMessageText name below
      return m.followedBy k := by
  have hlines : significantLines (above ++ "\n" ++ below).toList
      = significantLines above.toList ++ significantLines below.toList := by
    have hfeed : (above ++ "\n" ++ below).toList = above.toList ++ '\n' :: below.toList := by
      rw [String.toList_append, String.toList_append, List.append_assoc]
      rfl
    rw [hfeed, significantLines_append]
  simp only [readMessageText_eq]
  rw [hlines, List.mapM_append]
  cases (significantLines above.toList).mapM r.readLine with
  | error e => rfl
  | ok as =>
    cases (significantLines below.toList).mapM r.readLine with
    | error e => rfl
    | ok bs => exact congrArg Except.ok (Message.followedBy_ofEntries _ _ _ _ as bs).symm

end Resolver

/-! ## Changes of the layout -/

/-- A line begins behind this text. -/
def StartsLine (above : List Char) : Prop :=
  above = [] ∨ ∃ lines, above = lines ++ ['\n']

/-- A line ends in front of this text. -/
def EndsLine (below : List Char) : Prop :=
  below = [] ∨ (∃ lines, below = '\n' :: lines) ∨ ∃ lines, below = '\r' :: '\n' :: lines

/-- Blanks within a line. -/
def IsPadding (cs : List Char) : Prop :=
  ∀ c ∈ cs, Text.isBlank c = true ∧ c ≠ '\n'

instance (cs : List Char) : Decidable (IsPadding cs) :=
  decidable_of_iff (cs.all (fun c => Text.isBlank c && c != '\n') = true) (by
    simp only [IsPadding, List.all_eq_true, Bool.and_eq_true, bne_iff_ne])

/-- An empty line, or a comment. -/
def IsIdleLine (line : List Char) : Prop :=
  IsPadding line ∨ ∃ blanks comment, line = blanks ++ '#' :: comment ∧ IsPadding blanks ∧
    '\n' ∉ comment

/-- A text with a carriage return in front of every line feed. -/
def withReturns (text : List Char) : List Char :=
  text.flatMap fun c => if c = '\n' then ['\r', '\n'] else [c]

theorem withReturns_of_feedless {line : List Char} (h : '\n' ∉ line) : withReturns line = line := by
  induction line with
  | nil => rfl
  | cons c rest ih =>
    have hc := List.ne_of_not_mem_cons h
    have hrest := ih (List.not_mem_of_not_mem_cons h)
    rw [withReturns] at hrest
    rw [withReturns, List.flatMap_cons, if_neg (Ne.symm hc), hrest, List.singleton_append]

theorem withReturns_append (a b : List Char) :
    withReturns (a ++ '\n' :: b) = withReturns a ++ '\r' :: '\n' :: withReturns b := by
  rw [withReturns, List.flatMap_append, List.flatMap_cons, if_pos rfl]
  rfl

/-- One change to a text that no declaration sees. -/
inductive LayoutChange : List Char → List Char → Prop
  /-- Every line feed gets a carriage return in front of it. -/
  | returns (text : List Char) : LayoutChange text (withReturns text)
  /-- Blanks are put in front of a line. -/
  | leading {above blanks below : List Char} : StartsLine above → IsPadding blanks →
      LayoutChange (above ++ below) (above ++ (blanks ++ below))
  /-- Blanks are put behind a line. -/
  | trailing {above blanks below : List Char} : EndsLine below → IsPadding blanks →
      LayoutChange (above ++ below) (above ++ (blanks ++ below))
  /-- A line is put above another one. -/
  | lineAbove {above line below : List Char} : StartsLine above → IsIdleLine line →
      LayoutChange (above ++ below) (above ++ (line ++ '\n' :: below))
  /-- A line is put below another one. -/
  | lineBelow {above line below : List Char} : EndsLine below → IsIdleLine line →
      LayoutChange (above ++ below) (above ++ '\n' :: (line ++ below))
  /-- Something is written into an empty line, which may be what follows the last line feed. -/
  | fill {above line below : List Char} : StartsLine above → EndsLine below → IsIdleLine line →
      LayoutChange (above ++ below) (above ++ (line ++ below))

theorem IsPadding.blank {cs : List Char} (h : IsPadding cs) : ∀ c ∈ cs, Text.isBlank c = true :=
  fun c hc => (h c hc).1

theorem IsPadding.feedless {cs : List Char} (h : IsPadding cs) : '\n' ∉ cs :=
  fun hfeed => (h '\n' hfeed).2 rfl

theorem isPadding_return : IsPadding ['\r'] := by
  decide

/-- Blanks in front of a text are no part of it. -/
theorem Text.trim_blanks_append {a b : List Char} (ha : ∀ c ∈ a, isBlank c = true) :
    trim (a ++ b) = trim b := by
  rw [trim, List.dropWhile_append_of_pos ha, trim]

namespace Resolver

/-! ## Lines that declare nothing -/

theorem significantLines_nil : significantLines [] = [] := rfl

theorem significantLines_idle {line : List Char} (h : IsIdleLine line) :
    significantLines line = [] := by
  rcases h with hblank | ⟨blanks, comment, rfl, hblanks, hcomment⟩
  · have htrim : Text.trim line = [] := by
      have hnil := Text.trim_blanks_append (b := []) hblank.blank
      rwa [List.append_nil] at hnil
    rw [significantLines_line hblank.feedless, htrim]
    rfl
  · have hfeedless : '\n' ∉ blanks ++ '#' :: comment := by
      rw [List.mem_append, List.mem_cons]
      rintro (hfeed | hfeed | hfeed)
      · exact hblanks.feedless hfeed
      · cases hfeed
      · exact hcomment hfeed
    have hsign : Text.isBlank '#' = false := by decide
    have htrim : Text.trim (blanks ++ '#' :: comment) = '#' :: Text.trimEnd comment := by
      rw [Text.trim_blanks_append hblanks.blank, Text.trim_cons hsign]
      exact Text.trimEnd_append_cons hsign [] comment
    rw [significantLines_line hfeedless, htrim]
    rfl

/-! ## Places between lines -/

theorem significantLines_of_startsLine {above : List Char} (h : StartsLine above)
    (below : List Char) :
    significantLines (above ++ below) = significantLines above ++ significantLines below := by
  rcases h with rfl | ⟨lines, rfl⟩
  · rfl
  · rw [List.append_assoc, List.singleton_append, significantLines_append,
      significantLines_append, significantLines_nil, List.append_nil]

/-- Blanks behind the last line do not matter. -/
theorem significantLines_append_padding {blanks : List Char} (h : IsPadding blanks)
    (text : List Char) : significantLines (text ++ blanks) = significantLines text := by
  induction text using Text.lines_induction with
  | last line hline =>
    have hfeedless : '\n' ∉ line ++ blanks := by
      rw [List.mem_append, not_or]
      exact ⟨hline, h.feedless⟩
    rw [significantLines_line hfeedless, significantLines_line hline,
      Text.trim_append_blanks h.blank]
  | line first rest hfirst ih =>
    rw [List.append_assoc, List.cons_append, significantLines_append, significantLines_append, ih]

/-- Blanks in front of the first line do not matter. -/
theorem significantLines_padding_append {blanks : List Char} (h : IsPadding blanks)
    (text : List Char) : significantLines (blanks ++ text) = significantLines text := by
  have hline : ∀ line, '\n' ∉ line →
      significantLines (blanks ++ line) = significantLines line := by
    intro line hline
    have hfeedless : '\n' ∉ blanks ++ line := by
      rw [List.mem_append, not_or]
      exact ⟨h.feedless, hline⟩
    rw [significantLines_line hfeedless, significantLines_line hline,
      Text.trim_blanks_append h.blank]
  induction text using Text.lines_induction with
  | last line hfeedless => exact hline line hfeedless
  | line first rest hfirst _ =>
    rw [← List.append_assoc, significantLines_append, significantLines_append, hline first hfirst]

theorem significantLines_of_endsLine {below : List Char} (h : EndsLine below)
    (above : List Char) :
    significantLines (above ++ below) = significantLines above ++ significantLines below := by
  have hfeed : ∀ front lines, significantLines (front ++ '\n' :: lines)
      = significantLines front ++ significantLines ('\n' :: lines) := by
    intro front lines
    have hbegin := significantLines_append [] lines
    rw [significantLines_nil, List.nil_append, List.nil_append] at hbegin
    rw [significantLines_append, hbegin]
  rcases h with rfl | ⟨lines, rfl⟩ | ⟨lines, rfl⟩
  · rw [significantLines_nil, List.append_nil, List.append_nil]
  · exact hfeed above lines
  · have hfront := hfeed (above ++ ['\r']) lines
    have hbegin := significantLines_padding_append isPadding_return ('\n' :: lines)
    rw [List.append_assoc, significantLines_append_padding isPadding_return] at hfront
    rw [List.singleton_append] at hfront hbegin
    rw [hfront, hbegin]

/-! ## Changes of the layout -/

theorem significantLines_withReturns (text : List Char) :
    significantLines (withReturns text) = significantLines text := by
  induction text using Text.lines_induction with
  | last line hline => rw [withReturns_of_feedless hline]
  | line first rest hfirst ih =>
    rw [withReturns_append, withReturns_of_feedless hfirst, List.append_cons,
      significantLines_append, significantLines_append_padding isPadding_return, ih,
      significantLines_append]

/-- A change of the layout leaves the lines that declare something as they are. -/
theorem significantLines_layoutChange {text other : List Char} (h : LayoutChange text other) :
    significantLines other = significantLines text := by
  cases h with
  | returns => exact significantLines_withReturns text
  | leading hstarts hblanks =>
    rw [significantLines_of_startsLine hstarts, significantLines_of_startsLine hstarts,
      significantLines_padding_append hblanks]
  | trailing hends hblanks =>
    rw [← List.append_assoc, significantLines_of_endsLine hends,
      significantLines_of_endsLine hends, significantLines_append_padding hblanks]
  | lineAbove hstarts hline =>
    rw [significantLines_of_startsLine hstarts, significantLines_of_startsLine hstarts,
      significantLines_append, significantLines_idle hline, List.nil_append]
  | lineBelow hends hline =>
    rw [significantLines_append, significantLines_of_endsLine hends,
      significantLines_of_endsLine hends, significantLines_idle hline, List.nil_append]
  | fill hstarts hends hline =>
    rw [significantLines_of_startsLine hstarts, significantLines_of_endsLine hends,
      significantLines_of_startsLine hstarts, significantLines_idle hline, List.nil_append]

/-- So do any number of changes. -/
theorem significantLines_layoutChanges {text other : List Char}
    (h : Relation.ReflTransGen LayoutChange text other) :
    significantLines other = significantLines text := by
  induction h with
  | refl => rfl
  | tail _ hchange ih => rw [significantLines_layoutChange hchange, ih]

/-! ## Reading -/

variable (r : Resolver)

theorem readMessageText_layoutChanges (name : String) {text other : String}
    (h : Relation.ReflTransGen LayoutChange text.toList other.toList) :
    r.readMessageText name other
      = (r.readMessageText name text).map fun m => { m with text := other } := by
  rw [readMessageText_eq, readMessageText_eq, significantLines_layoutChanges h]
  cases (significantLines text.toList).mapM r.readLine with
  | error e => rfl
  | ok entries => rfl

/-- **Definitions one below the other, and their layout.**  Two texts with a line feed between them
are read exactly if both are, and the first one's error comes first.  The message declares what they
declare, in this order; of an import that both bring in, the second one's counts.  Changes of the
layout change nothing but the text: neither what is declared, nor which error is found in which
line. -/
theorem readMessage_layout (name : String) :
    (∀ above below : String,
      r.readMessage name (Text.Utf8.encode (above ++ "\n" ++ below)) = do
        let m ← r.readMessage name (Text.Utf8.encode above)
        let k ← r.readMessage name (Text.Utf8.encode below)
        return m.followedBy k) ∧
    (∀ m k : Message,
      (m.followedBy k).fields = m.fields ++ k.fields ∧
      (m.followedBy k).constants = m.constants ++ k.constants ∧
      (∀ package, (m.followedBy k).dependencies.find? package
        = (k.dependencies.find? package).or (m.dependencies.find? package)) ∧
      (m.followedBy k).hasBuiltin = (m.hasBuiltin || k.hasBuiltin) ∧
      (m.followedBy k).hasArray = (m.hasArray || k.hasArray) ∧
      (m.followedBy k).hasFixedArray = (m.hasFixedArray || k.hasFixedArray)) ∧
    (∀ text other : String, Relation.ReflTransGen LayoutChange text.toList other.toList →
      r.readMessage name (Text.Utf8.encode other)
        = (r.readMessage name (Text.Utf8.encode text)).map fun m => { m with text := other }) := by
  refine ⟨fun above below => ?_, fun m k => ?_, fun text other hchanges => ?_⟩
  · simp only [readMessage_encode]
    exact r.readMessageText_append name above below
  · exact ⟨rfl, rfl, Dictionary.find?_insertAll m.dependencies k.dependencies,
      Message.followedBy_flags m k⟩
  · rw [readMessage_encode, readMessage_encode, r.readMessageText_layoutChanges name hchanges]

end Resolver

/-! ## A bed -/

namespace Garden

/-- Two lines, and the same two with other line ends, with blanks around them and with a comment
between them. -/
theorem bed_layoutChanges : Relation.ReflTransGen LayoutChange "Pot pot\nuint8 RIPE=2".toList
    "  Pot pot\r\n\t# soil\nuint8 RIPE=2\t".toList := by
  have hreturns : LayoutChange "Pot pot\nuint8 RIPE=2".toList "Pot pot\r\nuint8 RIPE=2".toList :=
    .returns "Pot pot\nuint8 RIPE=2".toList
  have hleading : LayoutChange ([] ++ "Pot pot\r\nuint8 RIPE=2".toList)
      ([] ++ ([' ', ' '] ++ "Pot pot\r\nuint8 RIPE=2".toList)) :=
    .leading (.inl rfl) (by decide)
  have hcomment : LayoutChange ("  Pot pot\r\n".toList ++ "uint8 RIPE=2".toList)
      ("  Pot pot\r\n".toList ++ ("\t# soil".toList ++ '\n' :: "uint8 RIPE=2".toList)) :=
    .lineAbove (.inr ⟨"  Pot pot\r".toList, rfl⟩)
      (.inr ⟨['\t'], " soil".toList, rfl, by decide, by decide⟩)
  have htrailing : LayoutChange ("  Pot pot\r\n\t# soil\nuint8 RIPE=2".toList ++ [])
      ("  Pot pot\r\n\t# soil\nuint8 RIPE=2".toList ++ (['\t'] ++ [])) :=
    .trailing (.inl rfl) (by decide)
  exact (((Relation.ReflTransGen.single hreturns).tail hleading).tail hcomment).tail htrailing

/-- The two lines are read alike in both forms, and with a third one below them. -/
theorem readMessage_bed :
    (resolver.readMessage "Bed"
        (Text.Utf8.encode "  Pot pot\r\n\t# soil\nuint8 RIPE=2\t")).map Message.declared
      = .ok ([⟨"pot", "Pot", .single, .own "Pot"⟩], [⟨"RIPE", "uint8", "2"⟩]) ∧
    (resolver.readMessage "Bed"
        (Text.Utf8.encode ("Pot pot\nuint8 RIPE=2" ++ "\n" ++ "bool[2] dug"))).map Message.declared
      = .ok ([⟨"pot", "Pot", .single, .own "Pot"⟩,
          ⟨"dug", "bool", .exactly 2, .primitive .bool⟩], [⟨"RIPE", "uint8", "2"⟩]) := by
  obtain ⟨happend, -, hlayout⟩ := Resolver.readMessage_layout resolver "Bed"
  constructor
  · rw [hlayout _ _ bed_layoutChanges, Resolver.readMessage_encode]
    rfl
  · rw [happend, Resolver.readMessage_encode, Resolver.readMessage_encode]
    rfl

end Garden

end Missive
