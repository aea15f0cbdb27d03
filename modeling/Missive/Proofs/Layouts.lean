import Missive.Code.Layout
import Missive.Proofs.Readers
import Missive.Text.Blank
/-!
# Reading laid out code

Where lines are broken depends on how wide the code is, and code can be as wide as the names in it.
What a reader has to know of it is little: the texts of a document stand in the written text one
behind the other as they are, and in place of each break there are blanks, or the end of a line and
the indentation of the next one.

* `Token.Shows`, `Doc.LaidOut` -- what can be written for a token, and for a document;
* `Page.Holds`, `Doc.laidOut_render` -- whatever is written for a document lays it out;
* `Page.texts`, `Doc.toList_render` -- what is written for a document, token by token;
* `Doc.ink` -- a document without its boxes, which leave no trace;
* `Starts` -- a document that begins with something else than a blank;
* `Takes` -- a reader that takes the front of every layout of a document and leaves a layout of the
  rest; `Takes.bind`, `Takes.text`, `Takes.gap`, `Takes.many` put such readers together.
-/

namespace Missive.Code

/-! ## Layouts -/

/-- What can be written for a token.  A break that is not taken shows no more blanks than it stands
for; those at the end of a line are left out. -/
inductive Token.Shows : Token → List Char → Prop where
  | text (s : String) : Shows (.text s) s.toList
  | flat {b : Break} {n : Nat} (h : n ≤ b.blanks) : Shows (.break b) (List.replicate n ' ')
  | taken {b : Break} (h : b.never = false) (column : Nat) :
    Shows (.break b) (b.before.toList ++ '\n' :: (List.replicate column ' ' ++ b.after.toList))
  | opening (consistent : Bool) (indent : Int) : Shows (.opening consistent indent) []
  | closing : Shows .closing []

namespace Doc

/-- A text lays out a document. -/
inductive LaidOut : Doc → List Char → Prop where
  | nil : LaidOut [] []
  | cons {t : Token} {d : Doc} {piece cs : List Char} (h : t.Shows piece) (rest : LaidOut d cs) :
    LaidOut (t :: d) (piece ++ cs)

theorem LaidOut.append {a b : Doc} {x y : List Char} (ha : LaidOut a x) (hb : LaidOut b y) :
    LaidOut (a ++ b) (x ++ y) := by
  induction ha with
  | nil => exact hb
  | cons h _ ih =>
    rw [List.append_assoc]
    exact .cons h ih

/-- A document in two parts is laid out part by part. -/
theorem laidOut_append_iff {a b : Doc} {cs : List Char} :
    LaidOut (a ++ b) cs ↔ ∃ x y, cs = x ++ y ∧ LaidOut a x ∧ LaidOut b y := by
  constructor
  · intro h
    induction a generalizing cs with
    | nil => exact ⟨[], cs, rfl, .nil, h⟩
    | cons t a ih =>
      cases h with
      | cons ht hrest =>
        obtain ⟨x, y, rfl, ha, hb⟩ := ih hrest
        exact ⟨_ ++ x, y, (List.append_assoc _ _ _).symm, .cons ht ha, hb⟩
  · intro ⟨x, y, hcs, ha, hb⟩
    rw [hcs]
    exact ha.append hb

/-- One more token at the end. -/
theorem LaidOut.concat {d : Doc} {t : Token} {cs piece : List Char} (h : LaidOut d cs)
    (ht : t.Shows piece) : LaidOut (d ++ [t]) (cs ++ piece) := by
  refine h.append ?_
  rw [← List.append_nil piece]
  exact .cons ht .nil

/-! ## Pages -/

/-- What is written on a page lays out a document, with any number of the blanks that are due. -/
def Page.Holds (p : Page) (d : Doc) : Prop :=
  ∀ n ≤ p.due, LaidOut d (p.written.toList ++ List.replicate n ' ')

theorem toList_blanks (n : Nat) : (blanks n).toList = List.replicate n ' ' :=
  String.toList_ofList

/-- Writing a text behind all blanks that are due. -/
theorem Page.Holds.put {p : Page} {d : Doc} (h : p.Holds d) (s : String) :
    (p.put s).due = 0 ∧ ∃ cs, LaidOut d cs ∧ (p.put s).written.toList = cs ++ s.toList := by
  refine ⟨rfl, _, h p.due (Nat.le_refl _), ?_⟩
  show (p.written ++ blanks p.due ++ s).toList = _
  rw [String.toList_append, String.toList_append, toList_blanks]

/-- Nothing is due after all has been written. -/
theorem Page.holds_of_written {p : Page} {d : Doc} {cs : List Char} (hdue : p.due = 0)
    (hwritten : p.written.toList = cs) (h : LaidOut d cs) : p.Holds d := by
  intro n hn
  rw [hdue] at hn
  rw [Nat.le_zero.1 hn, List.replicate_zero, List.append_nil, hwritten]
  exact h

/-- The end of a line.  Without a text in front of it the blanks that are due are forgotten. -/
theorem Page.Holds.newLine {p : Page} {d : Doc} (h : p.Holds d) {b : Break}
    (hb : b.never = false) : (p.newLine b).Holds (d ++ [.break b]) := by
  -- the page at the start of the new line, before the text behind the break
  obtain ⟨q, column, hpage, hdue, cs, hcs, hwritten⟩ : ∃ (q : Page) (column : Nat),
      p.newLine b = (if b.after.isEmpty then q else q.put b.after) ∧ q.due = column ∧
      ∃ cs, LaidOut d cs ∧ q.written.toList = cs ++ (b.before.toList ++ ['\n']) := by
    rw [Page.newLine]
    by_cases hbefore : b.before.isEmpty = true
    · refine ⟨_, _, rfl, rfl, p.written.toList, ?_, ?_⟩
      · have hnone := h 0 (Nat.zero_le _)
        rw [List.replicate_zero, List.append_nil] at hnone
        exact hnone
      · have hempty : b.before = "" := String.isEmpty_iff.1 hbefore
        simp only [hempty, String.toList_append]
        rfl
    · obtain ⟨-, cs, hcs, hput⟩ := h.put b.before
      refine ⟨_, _, rfl, rfl, cs, hcs, ?_⟩
      simp only [if_neg hbefore, String.toList_append, hput, List.append_assoc]
      rfl
  rw [hpage]
  by_cases hafter : b.after.isEmpty = true
  · have hempty : b.after = "" := String.isEmpty_iff.1 hafter
    rw [if_pos hafter]
    intro n hn
    have hshown := hcs.concat (.taken hb n)
    rw [hempty] at hshown
    rw [hwritten]
    simpa only [List.append_assoc, List.cons_append, List.nil_append, String.toList_empty,
      List.append_nil] using hshown
  · rw [if_neg hafter]
    refine Page.holds_of_written rfl ?_ (hcs.concat (.taken hb column))
    show (q.written ++ blanks q.due ++ b.after).toList = _
    simp only [String.toList_append, toList_blanks, hwritten, hdue, List.append_assoc,
      List.cons_append, List.nil_append]

/-- A break where the line goes on. -/
theorem Page.Holds.stay {p q : Page} {d : Doc} (h : p.Holds d) {b : Break}
    (hwritten : q.written = p.written) (hdue : q.due = p.due + b.blanks) :
    q.Holds (d ++ [.break b]) := by
  intro n hn
  rw [hdue] at hn
  have hshown := (h (min n p.due) (Nat.min_le_right _ _)).concat
    (.flat (b := b) (n := n - min n p.due) (by omega))
  rw [List.append_assoc, List.replicate_append_replicate] at hshown
  rw [hwritten]
  have hsum : min n p.due + (n - min n p.due) = n := by omega
  rw [← hsum]
  exact hshown

/-- A box opens and closes without a trace. -/
theorem Page.Holds.box {p q : Page} {d : Doc} (h : p.Holds d) {t : Token} (ht : t.Shows [])
    (hwritten : q.written = p.written) (hdue : q.due = p.due) : q.Holds (d ++ [t]) := by
  intro n hn
  rw [hdue] at hn
  have hshown := (h n hn).concat ht
  rw [List.append_nil] at hshown
  rw [hwritten]
  exact hshown

/-- **One token.**  Whatever a page holds, it holds one token more after writing it. -/
theorem Page.Holds.add {p : Page} {d : Doc} (h : p.Holds d) (t : Token) (reach : Nat) :
    (p.add (t, reach)).Holds (d ++ [t]) := by
  cases t with
  | text s =>
    obtain ⟨hdue, cs, hcs, hwritten⟩ := h.put s
    exact Page.holds_of_written hdue hwritten (hcs.concat (.text s))
  | «break» b =>
    show (if p.staysOnLine b reach then _ else p.newLine b).Holds _
    split_ifs with hstays
    · exact h.stay rfl rfl
    · have hnever : b.never = false := by
        rw [Page.staysOnLine, Bool.or_eq_true, not_or] at hstays
        exact Bool.eq_false_iff.2 hstays.1
      exact h.newLine hnever
  | opening consistent indent =>
    show (if p.room < reach then _ else _ : Page).Holds _
    split_ifs
    · exact h.box (.opening _ _) rfl rfl
    · exact h.box (.opening _ _) rfl rfl
  | closing =>
    obtain ⟨written, due, room, indent, frames⟩ := p
    rcases frames with _ | ⟨frame, rest⟩
    · exact h.box .closing rfl rfl
    · cases frame with
      | flat => exact h.box .closing rfl rfl
      | broken consistent outer => exact h.box .closing rfl rfl

/-- **All tokens.** -/
theorem Page.Holds.addAll {p : Page} {d : Doc} (h : p.Holds d) (tokens : List (Token × Nat)) :
    (tokens.foldl Page.add p).Holds (d ++ tokens.map (·.1)) := by
  induction tokens generalizing p d with
  | nil =>
    rw [List.map_nil, List.append_nil]
    exact h
  | cons t rest ih =>
    have hrest := ih (h.add t.1 t.2)
    rw [List.append_assoc] at hrest
    exact hrest

/-- Measuring a document keeps its tokens. -/
theorem map_measure (d : Doc) : d.measure.map (·.1) = d := by
  rw [measure]
  induction d with
  | nil => rfl
  | cons t d ih =>
    rw [List.foldr_cons]
    generalize d.foldr measureToken ([], [0]) = later at ih
    obtain ⟨measured, distances⟩ := later
    cases t <;> exact congrArg (_ :: ·) ih

/-- The text of a document lays it out. -/
theorem laidOut_render (d : Doc) : LaidOut d d.render.toList := by
  have hblank : Page.blank.Holds [] := by
    refine Page.holds_of_written rfl rfl ?_
    exact .nil
  have hall := hblank.addAll d.measure 0 (Nat.zero_le _)
  rw [map_measure, List.nil_append, List.replicate_zero, List.append_nil] at hall
  exact hall

/-! ## Pages token by token -/

/-- A page with a text in front. -/
def Page.behind (p : Page) (front : String) : Page :=
  { p with written := front ++ p.written }

theorem Page.behind_put (p : Page) (front s : String) :
    (p.behind front).put s = (p.put s).behind front := by
  simp [put, behind, String.append_assoc]

theorem Page.behind_newLine (p : Page) (front : String) (b : Break) :
    (p.behind front).newLine b = (p.newLine b).behind front := by
  rw [newLine, newLine]
  by_cases hbefore : b.before.isEmpty = true
  · by_cases hafter : b.after.isEmpty = true
    · simp [hbefore, hafter, behind, String.append_assoc]
    · simp [hbefore, hafter, behind, put, String.append_assoc]
  · by_cases hafter : b.after.isEmpty = true
    · simp [hbefore, hafter, behind, put, String.append_assoc]
    · simp [hbefore, hafter, behind, put, String.append_assoc]

theorem Page.behind_add (p : Page) (front : String) (t : Token × Nat) :
    (p.behind front).add t = (p.add t).behind front := by
  obtain ⟨token, reach⟩ := t
  cases token with
  | text s => exact p.behind_put front s
  | «break» b =>
    show (if p.staysOnLine b reach then _ else _)
      = (if p.staysOnLine b reach then _ else _ : Page).behind front
    split_ifs
    · rfl
    · exact p.behind_newLine front b
  | opening consistent indent =>
    show (if p.room < reach then _ else _)
      = (if p.room < reach then _ else _ : Page).behind front
    split_ifs
    · rfl
    · rfl
  | closing =>
    obtain ⟨written, due, room, indent, frames⟩ := p
    cases frames with
    | nil => rfl
    | cons frame rest => cases frame <;> rfl

/-- What each token adds to an empty page. -/
def Page.texts : Page → List (Token × Nat) → List String
  | _, [] => []
  | p, t :: rest => (p.add t).written :: texts { p.add t with written := "" } rest

theorem Page.written_addAll (tokens : List (Token × Nat)) (front : String) {p : Page}
    (h : p.written = "") : (tokens.foldl Page.add (p.behind front)).written.toList
      = front.toList ++ (p.texts tokens).flatMap String.toList := by
  induction tokens generalizing p front with
  | nil => simp [texts, behind, h]
  | cons t rest ih =>
    have hadd : (p.behind front).add t
        = ({ p.add t with written := "" } : Page).behind (front ++ (p.add t).written) := by
      rw [behind_add, behind, behind, String.append_empty]
    rw [List.foldl_cons, hadd, ih _ rfl, String.toList_append, List.append_assoc, texts,
      List.flatMap_cons]

/-- A document is written token by token. -/
theorem toList_render (d : Doc) :
    d.render.toList = (Page.blank.texts d.measure).flatMap String.toList := by
  have hblank : Page.blank.written = "" := rfl
  exact Page.written_addAll d.measure "" hblank

/-! ## Without boxes -/

/-- Whether a token can leave a trace. -/
def isInk : Token → Bool
  | .text _ | .break _ => true
  | .opening _ _ | .closing => false

/-- A document without its boxes. -/
def ink (d : Doc) : Doc :=
  d.filter isInk

theorem ink_append (a b : Doc) : ink (a ++ b) = ink a ++ ink b :=
  List.filter_append a b

/-- A box with a text in it is not dropped. -/
theorem ink_box {content : Doc} {s : String} (h : .text s ∈ content) (consistent : Bool)
    (indent : Int) : ink (box consistent indent content) = ink content := by
  rw [box.eq_def]
  split
  · cases List.mem_singleton.1 h
  · rw [ink, List.filter_append]
    exact List.append_nil (ink content)

/-- A box leaves no trace. -/
theorem LaidOut.inside {content : Doc} {s : String} (h : .text s ∈ content) {consistent : Bool}
    {indent : Int} {cs : List Char} (hcs : LaidOut (box consistent indent content) cs) :
    LaidOut content cs := by
  rw [box.eq_def] at hcs
  split at hcs
  · cases List.mem_singleton.1 h
  · cases hcs with
    | cons hopening hrest =>
      cases hopening
      obtain ⟨inside, behind, rfl, hinside, hbehind⟩ := laidOut_append_iff.1 hrest
      cases hbehind with
      | cons hclosing hnil =>
        cases hclosing
        cases hnil
        rwa [List.nil_append, List.append_nil, List.append_nil]

theorem LaidOut.ink {d : Doc} {cs : List Char} (h : LaidOut d cs) : LaidOut (ink d) cs := by
  induction h with
  | nil => exact .nil
  | cons ht _ ih =>
    cases ht with
    | text s => exact .cons (.text s) ih
    | flat hn => exact .cons (.flat hn) ih
    | taken hnever column => exact .cons (.taken hnever column) ih
    | opening => exact ih
    | closing => exact ih

end Doc

/-! ## Readers of layouts -/

open Doc (LaidOut)

/-- A reader takes the front of every layout of a document, and leaves a layout of the rest. -/
def Takes {α : Type} (read : Reader α) (d rest : Doc) (a : α) : Prop :=
  ∀ cs, LaidOut d cs → ∃ behind, read cs = some (a, behind) ∧ LaidOut rest behind

/-- All layouts of a document begin with this character. -/
def Opens (d : Doc) (c : Char) : Prop :=
  ∀ cs, LaidOut d cs → cs.head? = some c

/-- All layouts of a document begin with the same character, which is no blank. -/
def Starts (d : Doc) : Prop :=
  ∃ c, Opens d c ∧ Text.isBlank c = false

theorem Opens.text {s : String} {c : Char} (h : s.toList.head? = some c) (d : Doc) :
    Opens (.text s :: d) c := by
  intro cs hcs
  cases hcs with
  | cons ht _ =>
    cases ht with
    | text => rw [List.head?_append, h, Option.some_or]

theorem Starts.text {s : String} {c : Char} (h : s.toList.head? = some c)
    (hc : Text.isBlank c = false) (d : Doc) : Starts (.text s :: d) :=
  ⟨c, .text h d, hc⟩

theorem Starts.append {d : Doc} (h : Starts d) (e : Doc) : Starts (d ++ e) := by
  obtain ⟨c, hopens, hc⟩ := h
  refine ⟨c, fun cs hcs => ?_, hc⟩
  obtain ⟨front, back, rfl, hfront, -⟩ := Doc.laidOut_append_iff.1 hcs
  rw [List.head?_append, hopens front hfront, Option.some_or]

/-- What begins with a character is not empty. -/
theorem Starts.length_pos {d : Doc} (h : Starts d) {cs : List Char} (hcs : LaidOut d cs) :
    0 < cs.length := by
  obtain ⟨c, hopens, -⟩ := h
  obtain ⟨rest, rfl⟩ := List.head?_eq_some_iff.1 (hopens cs hcs)
  exact Nat.succ_pos _

namespace Reader

/-- Takes all blanks in front. -/
def gap : Reader Unit :=
  fun cs => some ((), cs.dropWhile Text.isBlank)

/-- Takes a comma and the blanks behind it, if there is one. -/
def optionalComma : Reader Unit
  | ',' :: rest => gap rest
  | cs => some ((), cs)

/-- Takes items as long as there are any, but no more than a bound. -/
def manyFrom {α : Type} (item : Reader α) : Nat → Reader (List α)
  | 0 => pure []
  | bound + 1 => fun cs =>
    match item cs with
    | none => some ([], cs)
    | some (a, rest) => (manyFrom item bound rest).map fun (as, rest) => (a :: as, rest)

theorem manyFrom_none {α : Type} {item : Reader α} {cs : List Char} (h : item cs = none)
    (bound : Nat) : manyFrom item (bound + 1) cs = some ([], cs) := by
  show (match item cs with | none => _ | some (a, rest) => _) = _
  rw [h]

theorem manyFrom_some {α : Type} {item : Reader α} {cs rest : List Char} {a : α}
    (h : item cs = some (a, rest)) (bound : Nat) : manyFrom item (bound + 1) cs
      = (manyFrom item bound rest).map fun (as, rest) => (a :: as, rest) := by
  show (match item cs with | none => _ | some (a, rest) => _) = _
  rw [h]

/-- Takes items as long as there are any; each of them takes at least one character. -/
def many {α : Type} (item : Reader α) : Reader (List α) :=
  fun cs => manyFrom item cs.length cs

end Reader

section

variable {α β : Type} {read : Reader α} {next : α → Reader β} {d e f : Doc} {a : α} {b : β}

theorem Takes.pure (a : α) (d : Doc) : Takes (Pure.pure a) d d a :=
  fun cs hcs => ⟨cs, rfl, hcs⟩

theorem Takes.bind (h : Takes read d e a) (hnext : Takes (next a) e f b) :
    Takes (read >>= next) d f b := by
  intro cs hcs
  obtain ⟨behind, hread, hbehind⟩ := h cs hcs
  show ∃ left, (read cs).bind (fun (a, rest) => next a rest) = some (b, left) ∧ _
  rw [hread]
  exact hnext behind hbehind

/-- What holds of more layouts holds of fewer. -/
theorem Takes.mono (h : Takes read e f a) (hlays : ∀ cs, LaidOut d cs → LaidOut e cs) :
    Takes read d f a :=
  fun cs hcs => h cs (hlays cs hcs)

theorem Takes.text {s : String} (h : Reads read s a) (d : Doc) : Takes read (.text s :: d) d a := by
  intro cs hcs
  cases hcs with
  | cons ht hrest =>
    cases ht with
    | text => exact ⟨_, h _, hrest⟩

/-- A text that a reader refuses is refused in every layout. -/
theorem Refuses.laidOut {s : String} (h : Refuses read s) {cs : List Char}
    (hcs : LaidOut (.text s :: d) cs) : read cs = none := by
  cases hcs with
  | cons ht _ =>
    cases ht with
    | text => exact h _

/-- Two texts beside each other are one. -/
theorem Takes.join {s t : String} (h : Takes read (.text (s ++ t) :: d) e a) :
    Takes read (.text s :: .text t :: d) e a := by
  refine h.mono fun cs hcs => ?_
  cases hcs with
  | cons hs hrest =>
    cases hs with
    | text =>
      cases hrest with
      | cons ht hrest =>
        cases ht with
        | text =>
          rw [← List.append_assoc, ← String.toList_append]
          exact .cons (.text _) hrest

/-- A seam is not seen. -/
theorem Takes.seam (h : Takes read d e a) : Takes read (Doc.seam ++ d) e a := by
  refine h.mono fun cs hcs => ?_
  cases hcs with
  | cons ht hrest =>
    cases ht with
    | flat hn =>
      rw [Nat.le_zero.1 hn]
      exact hrest
    | taken hnever => cases hnever

theorem dropWhile_blanks {c : Char} (hc : Text.isBlank c = false) {gap cs : List Char}
    (hgap : ∀ x ∈ gap, Text.isBlank x = true) (hcs : cs.head? = some c) :
    (gap ++ cs).dropWhile Text.isBlank = cs := by
  obtain ⟨rest, rfl⟩ := List.head?_eq_some_iff.1 hcs
  exact dropWhile_append_of_stops hgap (stopsAt_cons hc rest)

theorem blank_of_mem_replicate {n : Nat} : ∀ c ∈ List.replicate n ' ', Text.isBlank c = true := by
  intro c hc
  rw [List.eq_of_mem_replicate hc]
  rfl

theorem blank_of_mem_newLine {n : Nat} :
    ∀ c ∈ '\n' :: List.replicate n ' ', Text.isBlank c = true :=
  List.forall_mem_cons.2 ⟨rfl, blank_of_mem_replicate⟩

/-- In place of a break without texts there are blanks only. -/
theorem Takes.gap (h : Starts d) (blanks : Nat) (offset : Int) :
    Takes Reader.gap (Doc.line blanks offset ++ d) d () := by
  obtain ⟨c, hopens, hc⟩ := h
  intro cs hcs
  cases hcs with
  | cons ht hrest =>
    refine ⟨_, ?_, hrest⟩
    have hhead := hopens _ hrest
    rw [Reader.gap]
    cases ht with
    | flat => rw [dropWhile_blanks hc blank_of_mem_replicate hhead]
    | taken hnever column =>
      show some ((), ('\n' :: (List.replicate column ' ' ++ []) ++ _).dropWhile _) = _
      rw [List.append_nil, dropWhile_blanks hc blank_of_mem_newLine hhead]

/-- Behind the last item of a list there is a comma if the line ends there. -/
theorem Takes.optionalComma {c : Char} (hopens : Opens d c) (hc : Text.isBlank c = false)
    (hcomma : c ≠ ',') (offset : Int) :
    Takes Reader.optionalComma (Doc.lastComma 0 offset ++ d) d () := by
  intro cs hcs
  cases hcs with
  | cons ht hrest =>
    refine ⟨_, ?_, hrest⟩
    have hhead := hopens _ hrest
    cases ht with
    | flat hn =>
      rw [Nat.le_zero.1 hn, List.replicate_zero, List.nil_append]
      obtain ⟨behind, rfl⟩ := List.head?_eq_some_iff.1 hhead
      rw [Reader.optionalComma.eq_def]
      split
      · rename_i heq
        exact absurd (List.cons.inj heq).1 hcomma
      · rfl
    | taken hnever column =>
      rename_i behind
      have hshown : ",".toList ++ '\n' :: (List.replicate column ' ' ++ "".toList) ++ behind
          = ',' :: ('\n' :: List.replicate column ' ' ++ behind) := by
        simp
      show Reader.optionalComma (",".toList ++ '\n' :: (_ ++ "".toList) ++ behind) = _
      rw [hshown]
      show Reader.gap _ = _
      rw [Reader.gap, dropWhile_blanks hc blank_of_mem_newLine hhead]

/-! ### Items in a row -/

/-- An item is taken from the front of a document, wherever the rest begins with no blank. -/
structure TakesItem (item : Reader α) (d : Doc) (a : α) : Prop where
  starts : Starts d
  takes : ∀ rest, Starts rest → Takes item (d ++ rest) rest a

variable {ι : Type} {doc : ι → Doc} {item : Reader α} {xs : List ι} {as : List α}

theorem Starts.items (h : List.Forall₂ (fun x a => TakesItem item (doc x) a) xs as)
    (hd : Starts d) : Starts (xs.flatMap doc ++ d) := by
  cases h with
  | nil => exact hd
  | cons hx _ =>
    rw [List.flatMap_cons, List.append_assoc]
    exact hx.starts.append _

/-- Items are taken one after the other, up to where there are no more. -/
theorem Takes.manyFrom (h : List.Forall₂ (fun x a => TakesItem item (doc x) a) xs as)
    (hd : Starts d) (hend : ∀ cs, LaidOut d cs → item cs = none) {bound : Nat}
    (hbound : xs.length ≤ bound) :
    Takes (Reader.manyFrom item bound) (xs.flatMap doc ++ d) d as := by
  induction h generalizing bound with
  | nil =>
    intro cs hcs
    refine ⟨cs, ?_, hcs⟩
    cases bound with
    | zero => rfl
    | succ bound => exact Reader.manyFrom_none (hend cs hcs) bound
  | cons hx hrest ih =>
    intro cs hcs
    rw [List.flatMap_cons, List.append_assoc] at hcs
    rw [List.length_cons] at hbound
    obtain ⟨bound, rfl⟩ : ∃ n, bound = n + 1 := ⟨bound - 1, by omega⟩
    obtain ⟨behind, hread, hbehind⟩ := hx.takes _ (.items hrest hd) cs hcs
    obtain ⟨left, hmany, hleft⟩ := ih (Nat.le_of_succ_le_succ hbound) behind hbehind
    refine ⟨left, ?_, hleft⟩
    rw [Reader.manyFrom_some hread, hmany]
    rfl

/-- A layout is at least as long as there are items in it. -/
theorem length_le_of_laidOut (h : List.Forall₂ (fun x a => TakesItem item (doc x) a) xs as)
    {cs : List Char} (hcs : LaidOut (xs.flatMap doc ++ d) cs) : xs.length ≤ cs.length := by
  induction h generalizing cs with
  | nil => exact Nat.zero_le _
  | cons hx _ ih =>
    rw [List.flatMap_cons, List.append_assoc] at hcs
    obtain ⟨front, back, rfl, hfront, hback⟩ := Doc.laidOut_append_iff.1 hcs
    have hpos := hx.starts.length_pos hfront
    have hrest := ih hback
    rw [List.length_append, List.length_cons]
    omega

theorem Takes.many (h : List.Forall₂ (fun x a => TakesItem item (doc x) a) xs as) (hd : Starts d)
    (hend : ∀ cs, LaidOut d cs → item cs = none) :
    Takes (Reader.many item) (xs.flatMap doc ++ d) d as :=
  fun cs hcs => Takes.manyFrom h hd hend (length_le_of_laidOut h hcs) cs hcs

end

end Missive.Code
