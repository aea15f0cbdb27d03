import Missive.Proofs.Directives
/-!
# What a comment says

A comment is cut into runs of characters between gaps.  A run is a directive or prose, by itself
and whatever stands beside it, and the last directive of a key counts.

* `Directive.IsCut`, `Directive.runs` -- a text between its gaps;
* `Directive.Sets` -- the runs that give a key a value;
* `Directive.SetsLast`, `Directive.find?_collect_eq_some_iff` -- the run that counts for a key;
* `Directive.collect_of_runs` -- the directives of a comment, run by run.
-/

namespace Missive

namespace Directive

/-! ## Runs -/

/-- A text is cut into its runs: the longest pieces without a gap, in order. -/
inductive IsCut : List Char → List (List Char) → Prop
  | gaps {gaps : List Char} : (∀ c ∈ gaps, isGap c = true) → IsCut gaps []
  | run {gaps run rest : List Char} {runs : List (List Char)} :
      (∀ c ∈ gaps, isGap c = true) → IsRun isWordChar run → StopsAt isWordChar rest →
      IsCut rest runs → IsCut (gaps ++ (run ++ rest)) (run :: runs)

/-- The runs of a text. -/
def runs (cs : List Char) : List (List Char) :=
  (words cs).filter (!·.isEmpty)

/-- A comment behind the marks that open it. -/
def unmarked (comment : String) : List Char :=
  comment.toList.dropWhile (· == '#')

theorem runs_gap {c : Char} (h : isGap c = true) (rest : List Char) :
    runs (c :: rest) = runs rest := by
  rw [runs, words_gap h]
  rfl

/-- Gaps in front of a text are no part of its runs. -/
theorem runs_gaps_append {gaps : List Char} (h : ∀ c ∈ gaps, isGap c = true) (rest : List Char) :
    runs (gaps ++ rest) = runs rest := by
  induction gaps with
  | nil => rfl
  | cons c gaps ih =>
    obtain ⟨hc, hgaps⟩ := List.forall_mem_cons.1 h
    rw [List.cons_append, runs_gap hc, ih hgaps]

/-- A run at the front of a text is its first one. -/
theorem runs_run_append {run rest : List Char} (hrun : IsRun isWordChar run)
    (hrest : StopsAt isWordChar rest) : runs (run ++ rest) = run :: runs rest := by
  have hkeep : ∀ cs, runs cs
      = (words cs).filterMap fun w => if w.isEmpty then none else some w := by
    intro cs
    rw [runs, ← List.filterMap_eq_filter]
    apply List.filterMap_congr
    intro word _
    cases word <;> rfl
  have hfirst : (run ++ rest).takeWhile isWordChar = run := takeWhile_append_of_stops hrun.all hrest
  have hlater : (run ++ rest).dropWhile isWordChar = rest :=
    dropWhile_append_of_stops hrun.all hrest
  have hne : run.isEmpty = false := List.isEmpty_eq_false_iff.2 hrun.ne_nil
  rw [hkeep, filterMap_words rfl, hfirst, hlater, ← hkeep]
  simp [hne]

/-- Every text is cut into its runs. -/
theorem isCut_runs (cs : List Char) : IsCut cs (runs cs) := by
  -- one round takes the gaps in front and the run behind them
  induction hn : cs.length using Nat.strong_induction_on generalizing cs with
  | _ n ih =>
    subst hn
    have hgaps : ∀ c ∈ cs.takeWhile isGap, isGap c = true := fun c hc => List.mem_takeWhile_imp hc
    have hcs : cs.takeWhile isGap ++ cs.dropWhile isGap = cs := List.takeWhile_append_dropWhile
    have hstart := stopsAt_dropWhile isGap cs
    generalize cs.takeWhile isGap = gaps at hgaps hcs
    generalize cs.dropWhile isGap = behind at hstart hcs
    subst hcs
    rw [runs_gaps_append hgaps]
    cases behind with
    | nil =>
      rw [List.append_nil]
      exact .gaps hgaps
    | cons c later =>
      have hc : isWordChar c = true := by
        rw [isWordChar, hstart c rfl]
        rfl
      have hrun : IsRun isWordChar ((c :: later).takeWhile isWordChar) := by
        refine ⟨?_, fun d hd => List.mem_takeWhile_imp hd⟩
        rw [List.takeWhile_cons_of_pos hc]
        exact List.cons_ne_nil _ _
      have hrest := stopsAt_dropWhile isWordChar (c :: later)
      have hsplit : (c :: later).takeWhile isWordChar ++ (c :: later).dropWhile isWordChar
          = c :: later := List.takeWhile_append_dropWhile
      have hshorter : ((c :: later).dropWhile isWordChar).length < (gaps ++ c :: later).length := by
        have hlength := congrArg List.length hsplit
        have hpos := List.length_pos_iff.2 hrun.ne_nil
        simp only [List.length_append] at hlength ⊢
        omega
      have hcut := IsCut.run hgaps hrun hrest (ih _ hshorter _ rfl)
      rwa [← runs_run_append hrun hrest, hsplit] at hcut

/-- A text has no other runs. -/
theorem IsCut.eq_runs {cs : List Char} {pieces : List (List Char)} (h : IsCut cs pieces) :
    pieces = runs cs := by
  induction h with
  | gaps hgaps =>
    have hnone := runs_gaps_append hgaps []
    rw [List.append_nil] at hnone
    rw [hnone]
    rfl
  | run hgaps hrun hrest _ ih => rw [runs_gaps_append hgaps, runs_run_append hrun hrest, ih]

theorem isWordChar_of_mem_runs {cs run : List Char} (h : run ∈ runs cs) :
    ∀ c ∈ run, isWordChar c = true :=
  isWordChar_of_mem_words (List.mem_of_mem_filter h)

/-- The directives of a text are those of its runs. -/
theorem scan_eq_runs (cs : List Char) : scan cs = (runs cs).filterMap ofWord? := by
  rw [scan_eq, runs, List.filterMap_filter]
  apply List.filterMap_congr
  intro word _
  cases word <;> rfl

/-! ## What a run sets -/

/-- A run gives a key a value: it is a name, an equals sign and a text, maybe with the audience of
this generator in front. -/
structure Sets (run : List Char) (key value : String) : Prop where
  key_run : IsRun isNameChar key.toList
  value_ne_nil : value.toList ≠ []
  written : run = key.toList ++ '=' :: value.toList ∨
    run = audienceHere.toList ++ ':' :: (key.toList ++ '=' :: value.toList)

/-- The key and the value that a run sets. -/
def setting? (run : List Char) : Option (String × String) :=
  (ofWord? run).bind fun d => if d.isHere then some (d.key, d.value) else none

theorem setting?_eq_some_iff {run : List Char} (hword : ∀ c ∈ run, isWordChar c = true)
    {key value : String} : setting? run = some (key, value) ↔ Sets run key value := by
  rw [setting?, Option.bind_eq_some_iff]
  constructor
  · rintro ⟨⟨audience, key', value'⟩, hd, hpair⟩
    obtain ⟨hplain, htext⟩ := (ofWord?_eq_some_iff hword).1 hd
    split_ifs at hpair with hhere
    obtain ⟨rfl, rfl⟩ := Prod.mk.inj (Option.some.inj hpair)
    refine ⟨hplain.key_run, hplain.value_ne_nil, ?_⟩
    rcases isHere_iff.1 hhere with rfl | rfl
    · exact .inl htext
    · exact .inr htext
  · rintro ⟨hkey, hvalue, rfl | rfl⟩
    · have hplain : IsPlain ⟨none, key, value⟩ := by
        refine ⟨fun audience h => ?_, hkey, hvalue⟩
        cases h
      exact ⟨_, (ofWord?_eq_some_iff hword).2 ⟨hplain, rfl⟩, rfl⟩
    · have hplain : IsPlain ⟨some audienceHere, key, value⟩ := by
        refine ⟨fun audience h => ?_, hkey, hvalue⟩
        obtain rfl := Option.some.inj h
        decide
      exact ⟨_, (ofWord?_eq_some_iff hword).2 ⟨hplain, rfl⟩, rfl⟩

/-- The directives of a comment are what its runs set, one after the other. -/
theorem collect_eq (comment : String) :
    collect comment = Dictionary.ofList ((runs (unmarked comment)).filterMap setting?) := by
  have hmap : ((scan (unmarked comment)).filter isHere).map (fun d => (d.key, d.value))
      = (runs (unmarked comment)).filterMap setting? := by
    rw [scan_eq_runs, ← List.filterMap_eq_map, List.filterMap_filter, List.filterMap_filterMap]
    rfl
  rw [← hmap]
  rfl

/-! ## The run that counts -/

/-- The last one of these runs that sets a key gives it this value. -/
def SetsLast (runs : List (List Char)) (key value : String) : Prop :=
  ∃ before run after, runs = before ++ run :: after ∧ Sets run key value ∧
    ∀ later ∈ after, ∀ other, ¬Sets later key other

/-- The value that a run gives to a key. -/
def valueFor? (key : String) (run : List Char) : Option String :=
  (setting? run).bind fun e => if key = e.1 then some e.2 else none

theorem valueFor?_eq_some_iff {run : List Char} (hword : ∀ c ∈ run, isWordChar c = true)
    {key value : String} : valueFor? key run = some value ↔ Sets run key value := by
  rw [← setting?_eq_some_iff hword, valueFor?, Option.bind_eq_some_iff]
  constructor
  · rintro ⟨⟨key', value'⟩, hset, hvalue⟩
    split_ifs at hvalue with hkey
    rw [hset, hkey, ← Option.some.inj hvalue]
  · intro hset
    exact ⟨(key, value), hset, if_pos rfl⟩

theorem find?_collect_eq_some_iff {comment key value : String} :
    (collect comment).find? key = some value ↔ SetsLast (runs (unmarked comment)) key value := by
  have hfind : (collect comment).find? key
      = ((runs (unmarked comment)).filterMap (valueFor? key)).getLast? := by
    rw [collect_eq, Dictionary.find?_ofList, List.filterMap_filterMap]
    rfl
  have hword : ∀ run ∈ runs (unmarked comment), ∀ c ∈ run, isWordChar c = true :=
    fun run => isWordChar_of_mem_runs
  rw [hfind, List.getLast?_eq_some_iff]
  generalize runs (unmarked comment) = pieces at hword
  constructor
  · rintro ⟨earlier, hsplit⟩
    obtain ⟨front, back, rfl, -, hback⟩ := List.filterMap_eq_append_iff.1 hsplit
    obtain ⟨idle, run, after, rfl, -, hvalue, hafter⟩ := List.filterMap_eq_cons_iff.1 hback
    refine ⟨front ++ idle, run, after, by rw [List.append_assoc], ?_, ?_⟩
    · exact (valueFor?_eq_some_iff (hword run (by simp))).1 hvalue
    · intro later hlater other hsets
      have hnone := List.filterMap_eq_nil_iff.1 hafter later hlater
      rw [(valueFor?_eq_some_iff (hword later (by simp [hlater]))).2 hsets] at hnone
      cases hnone
  · rintro ⟨before, run, after, rfl, hsets, hafter⟩
    have hvalue := (valueFor?_eq_some_iff (hword run (by simp))).2 hsets
    have hnone : after.filterMap (valueFor? key) = [] := by
      refine List.filterMap_eq_nil_iff.2 fun later hlater => Option.eq_none_iff_forall_ne_some.2 ?_
      intro other hother
      exact hafter later hlater other
        ((valueFor?_eq_some_iff (hword later (by simp [hlater]))).1 hother)
    refine ⟨before.filterMap (valueFor? key), ?_⟩
    rw [List.filterMap_append, List.filterMap_cons_some hvalue, hnone]

/-- A run that sets nothing can be left out. -/
theorem collect_without {comment other : String} {before after : List (List Char)}
    {run : List Char} (hruns : runs (unmarked comment) = before ++ run :: after)
    (hother : runs (unmarked other) = before ++ after) (hidle : ∀ key value, ¬Sets run key value) :
    collect other = collect comment := by
  have hmem : run ∈ runs (unmarked comment) := by
    rw [hruns]
    simp
  have hword : ∀ c ∈ run, isWordChar c = true := isWordChar_of_mem_runs hmem
  have hnone : setting? run = none := by
    refine Option.eq_none_iff_forall_ne_some.2 ?_
    rintro ⟨key, value⟩ hset
    exact hidle key value ((setting?_eq_some_iff hword).1 hset)
  rw [collect_eq, collect_eq, hruns, hother, List.filterMap_append, List.filterMap_append,
    List.filterMap_cons_none hnone]

/-- **The directives of a comment are those of its runs.**  Behind the marks that open it every
comment is cut into runs of characters between gaps.  Reading it from left to right finds the
directives among these runs and nothing else: the runs that are a key, an equals sign and a value,
with or without an audience in front.  A key has the value of the last run that sets it, for
everyone or for this generator; and a run that sets nothing changes nothing, whatever the others
are. -/
theorem collect_of_runs (comment : String) :
    (∀ pieces, IsCut (unmarked comment) pieces ↔ pieces = runs (unmarked comment)) ∧
    scan (unmarked comment) = (runs (unmarked comment)).filterMap ofWord? ∧
    (∀ run ∈ runs (unmarked comment), ∀ d, ofWord? run = some d ↔ d.IsPlain ∧ run = d.text) ∧
    (∀ key value, (collect comment).find? key = some value ↔
      SetsLast (runs (unmarked comment)) key value) ∧
    (∀ other before run after, runs (unmarked comment) = before ++ run :: after →
      runs (unmarked other) = before ++ after → (∀ key value, ¬Sets run key value) →
      collect other = collect comment) := by
  refine ⟨fun pieces => ⟨IsCut.eq_runs, ?_⟩, scan_eq_runs _, ?_, ?_, ?_⟩
  · rintro rfl
    exact isCut_runs _
  · intro run hrun d
    exact ofWord?_eq_some_iff (isWordChar_of_mem_runs hrun)
  · intro key value
    exact find?_collect_eq_some_iff
  · intro other before run after hruns hother hidle
    exact collect_without hruns hother hidle

end Directive

/-! ## A remark -/

namespace Garden

open Directive

/-- Behind a field: directives for everyone, for this generator and for another one, and prose that
looks like them. -/
def remark : String :=
  "## rust:shade=half #x=1 a::b=c shade:=full\tgo:shade=deep shade=x=y  water"

def remarkRuns : List (List Char) :=
  ["rust:shade=half", "#x=1", "a::b=c", "shade:=full", "go:shade=deep", "shade=x=y", "water"].map
    String.toList

theorem runs_remark : runs (unmarked remark) = remarkRuns := by
  decide

/-- The last word about the shade counts, the directive for the other generator stays one, and
without the prose in front the remark says the same. -/
theorem collect_of_remark :
    (collect remark).find? "shade" = some "x=y" ∧
    ofWord? "go:shade=deep".toList = some ⟨some "go", "shade", "deep"⟩ ∧
    (scan (unmarked remark)).length = 3 ∧
    collect "#\trust:shade=half #x=1 shade:=full go:shade=deep shade=x=y water"
      = collect remark := by
  obtain ⟨-, hscan, hdirectives, hfind, hwithout⟩ := collect_of_runs remark
  rw [runs_remark] at hscan hdirectives hfind hwithout
  refine ⟨(hfind "shade" "x=y").2 ?_, ?_, ?_, ?_⟩
  · refine ⟨remarkRuns.take 5, "shade=x=y".toList, ["water".toList], by decide, ?_, ?_⟩
    · exact ⟨by decide, by decide, .inl (by decide)⟩
    · intro later hlater other hsets
      obtain rfl := List.mem_singleton.1 hlater
      rcases hsets.written with h | h
      · exact absurd (congrArg List.head? h) (by simp)
      · exact absurd (congrArg List.head? h) (by simp [audienceHere])
  · refine (hdirectives _ (by decide) _).2 ⟨⟨?_, by decide, by decide⟩, by decide⟩
    intro audience haudience
    obtain rfl := Option.some.inj haudience
    decide
  · rw [hscan]
    rfl
  · refine hwithout _ (remarkRuns.take 2) "a::b=c".toList (remarkRuns.drop 3) (by decide)
      (by decide) ?_
    intro key value hsets
    have hword : ∀ c ∈ "a::b=c".toList, isWordChar c = true := List.all_eq_true.1 rfl
    have hset := (setting?_eq_some_iff hword).2 hsets
    have hidle : setting? "a::b=c".toList = none := by
      decide
    rw [hidle] at hset
    cases hset

end Garden

end Missive
