import Missive.Definition.Service
import Missive.Proofs.Joining
/-!
# The two sections of a service

A service text has one section more than it has separator lines.  With one separator it is made of
two message definitions: the first one ends where the separator line begins, the second one begins
right behind the mark and so takes the rest of the separator line with it, which declares nothing.

* `separatorLines` -- how many lines of a text are separators;
* `length_sections` -- how many sections it has;
* `sections_separated` -- the sections at a separator line, whatever blanks are around the mark;
* `Resolver.readService_sections` -- a service, read from its two definitions.
-/

namespace Missive

namespace Text

/-! ## Chunks and lines -/

/-- The end of a line is one blank or two. -/
theorem trim_dropLineEnd_eq (chunk : List Char) : trim (dropLineEnd chunk) = trim chunk := by
  have hends : ∀ c ∈ ['\r', '\n'], isBlank c = true := List.all_eq_true.1 rfl
  have hfeed : ∀ c ∈ ['\n'], isBlank c = true := List.all_eq_true.1 rfl
  rw [dropLineEnd]
  split
  · rename_i rest hreverse
    have hchunk : chunk = rest.reverse ++ ['\r', '\n'] := by
      rw [← List.reverse_reverse chunk, hreverse, List.reverse_cons, List.reverse_cons,
        List.append_assoc]
      rfl
    rw [hchunk, trim_append_blanks hends]
  · rename_i rest _ hreverse
    have hchunk : chunk = rest.reverse ++ ['\n'] := by
      rw [← List.reverse_reverse chunk, hreverse, List.reverse_cons]
    rw [hchunk, trim_append_blanks hfeed]
  · rfl

/-- Where a line begins, a text is cut. -/
theorem chunks_append_feed (a b : List Char) :
    chunks (a ++ '\n' :: b) = chunks (a ++ ['\n']) ++ chunks b := by
  induction a using lines_induction with
  | last line hline => rw [chunks_append hline, chunks_append hline]; rfl
  | line first rest hfirst ih =>
    rw [List.append_assoc, List.append_assoc, List.cons_append, List.cons_append,
      chunks_append hfirst, chunks_append hfirst, ih, List.cons_append]

end Text

theorem StartsLine.chunks_append {above : List Char} (h : StartsLine above) (below : List Char) :
    Text.chunks (above ++ below) = Text.chunks above ++ Text.chunks below := by
  rcases h with rfl | ⟨lines, rfl⟩
  · rfl
  · rw [List.append_assoc, List.singleton_append, Text.chunks_append_feed]

/-! ## Separators -/

/-- How many lines of a text are separators. -/
def separatorLines (text : String) : Nat :=
  (Text.lines text.toList).countP fun line => Text.trim line == separatorMark

theorem separatorLines_eq (text : String) :
    separatorLines text = (Text.chunks text.toList).countP isSeparator := by
  rw [separatorLines, Text.lines, List.countP_map]
  congr 1
  funext chunk
  rw [Function.comp_apply, Text.trim_dropLineEnd_eq, isSeparator]

theorem sectionsOf_separator {chunk : List Char} (h : isSeparator chunk = true)
    (rest : List (List Char)) :
    sectionsOf (chunk :: rest)
      = ([], (afterMark chunk ++ (sectionsOf rest).1) :: (sectionsOf rest).2) := by
  rw [sectionsOf]
  exact if_pos h

theorem sectionsOf_line {chunk : List Char} (h : ¬isSeparator chunk = true)
    (rest : List (List Char)) :
    sectionsOf (chunk :: rest) = (chunk ++ (sectionsOf rest).1, (sectionsOf rest).2) := by
  rw [sectionsOf]
  exact if_neg h

/-- Every separator begins a section. -/
theorem length_sectionsOf (chunks : List (List Char)) :
    (sectionsOf chunks).2.length = chunks.countP isSeparator := by
  induction chunks with
  | nil => rfl
  | cons chunk rest ih =>
    by_cases h : isSeparator chunk = true
    · rw [sectionsOf_separator h, List.countP_cons_of_pos h, List.length_cons, ih]
    · rw [sectionsOf_line h, List.countP_cons_of_neg h, ih]

theorem length_sections (text : String) : (sections text).length = separatorLines text + 1 := by
  rw [sections, List.length_map, List.length_cons, length_sectionsOf, separatorLines_eq]

/-- Chunks without a separator belong to the first section. -/
theorem sectionsOf_append {chunks : List (List Char)} (h : chunks.countP isSeparator = 0)
    (rest : List (List Char)) :
    sectionsOf (chunks ++ rest) = (chunks.flatten ++ (sectionsOf rest).1, (sectionsOf rest).2) := by
  induction chunks with
  | nil => rfl
  | cons chunk chunks ih =>
    have hall := List.countP_eq_zero.1 h
    have hchunk : ¬isSeparator chunk = true := hall chunk List.mem_cons_self
    have hrest : chunks.countP isSeparator = 0 :=
      List.countP_eq_zero.2 fun c hc => hall c (List.mem_cons_of_mem _ hc)
    rw [List.cons_append, sectionsOf_line hchunk, ih hrest, List.flatten_cons, List.append_assoc]

/-- A text without a separator is one section. -/
theorem sectionsOf_chunks {cs : List Char} (h : (Text.chunks cs).countP isSeparator = 0) :
    sectionsOf (Text.chunks cs) = (cs, []) := by
  have happend := sectionsOf_append h []
  rw [List.append_nil, Text.flatten_chunks] at happend
  rw [happend, sectionsOf, List.append_nil]

/-- A separator with blanks around its mark, and what follows the mark. -/
theorem separator_of_padding {before behind : List Char}
    (hbefore : ∀ c ∈ before, Text.isBlank c = true)
    (hbehind : ∀ c ∈ behind, Text.isBlank c = true) :
    isSeparator (before ++ (separatorMark ++ behind)) = true ∧
    afterMark (before ++ (separatorMark ++ behind)) = behind := by
  have hmark : Text.isBlank '-' = false := by decide
  have hdrop : (before ++ (separatorMark ++ behind)).dropWhile Text.isBlank
      = separatorMark ++ behind := by
    rw [List.dropWhile_append_of_pos hbefore]
    exact List.dropWhile_cons_of_neg (by rw [hmark]; exact Bool.false_ne_true)
  have htrim : Text.trim (before ++ (separatorMark ++ behind)) = separatorMark := by
    rw [Text.trim_blanks_append hbefore, Text.trim_append_blanks hbehind]
    rfl
  exact ⟨beq_iff_eq.2 htrim, by rw [afterMark, hdrop, List.drop_left]⟩

/-- A text is cut at its only separator line: the line belongs to neither section up to its mark,
and behind the mark to the second one. -/
theorem sections_separated {p q : String} {before behind : List Char}
    (hp : separatorLines p = 0) (hq : separatorLines q = 0) (hstarts : StartsLine p.toList)
    (hbefore : IsPadding before) (hbehind : IsPadding behind) :
    sections (p ++ String.ofList (before ++ (separatorMark ++ behind)) ++ "\n" ++ q)
      = [p, String.ofList behind ++ "\n" ++ q] := by
  have hfeedless : '\n' ∉ before ++ (separatorMark ++ behind) := by
    rw [List.mem_append, List.mem_append, not_or, not_or]
    exact ⟨hbefore.feedless, by decide, hbehind.feedless⟩
  have htext : (p ++ String.ofList (before ++ (separatorMark ++ behind)) ++ "\n" ++ q).toList
      = p.toList ++ ((before ++ (separatorMark ++ behind)) ++ '\n' :: q.toList) := by
    simp only [String.toList_append, String.toList_ofList, List.append_assoc]
    rfl
  have hends : ∀ c ∈ behind ++ ['\n'], Text.isBlank c = true := by
    rw [List.forall_mem_append]
    exact ⟨hbehind.blank, List.all_eq_true.1 rfl⟩
  obtain ⟨hseparator, hafter⟩ := separator_of_padding hbefore.blank hends
  rw [separatorLines_eq] at hp hq
  have hsecond := sectionsOf_chunks hq
  have hcut : sectionsOf (Text.chunks (p.toList
      ++ ((before ++ (separatorMark ++ behind)) ++ '\n' :: q.toList)))
        = (p.toList, [behind ++ ['\n'] ++ q.toList]) := by
    rw [hstarts.chunks_append, Text.chunks_append hfeedless, sectionsOf_append hp,
      List.append_assoc before, List.append_assoc separatorMark, sectionsOf_separator hseparator,
      hsecond, hafter, Text.flatten_chunks, List.append_nil]
  rw [sections, htext, hcut]
  simp only [List.map_cons, List.map_nil, String.ofList_append, String.ofList_toList]

/-! ## Services -/

namespace Resolver

variable (r : Resolver)

/-- Reading a service from the bytes of a text is reading it from the text. -/
theorem readService_encode (name text : String) :
    r.readService name (Text.Utf8.encode text) = r.readServiceText name text := by
  rw [readService, Text.Utf8.decode_encode]

/-- A service is read exactly if its text has two sections and each of them is read. -/
theorem readServiceText_eq_ok_iff {r : Resolver} {name text : String} {s : Service} :
    r.readServiceText name text = .ok s ↔
      ∃ first second request response, sections text = [first, second] ∧
        r.readMessageText (name ++ "Request") first = .ok request ∧
        r.readMessageText (name ++ "Response") second = .ok response ∧
        ⟨r.package, name, text, request, response⟩ = s := by
  rw [readServiceText]
  constructor
  · intro h
    split at h
    · rename_i first second hsections
      obtain ⟨request, hrequest, h⟩ := Except.bind_eq_ok_iff.1 h
      obtain ⟨response, hresponse, h⟩ := Except.bind_eq_ok_iff.1 h
      exact ⟨first, second, request, response, hsections, hrequest, hresponse, Except.ok.inj h⟩
    · cases h
  · rintro ⟨first, second, request, response, hsections, hrequest, hresponse, rfl⟩
    rw [hsections]
    exact Except.bind_eq_ok_iff.2
      ⟨request, hrequest, Except.bind_eq_ok_iff.2 ⟨response, hresponse, rfl⟩⟩

theorem readService_eq_ok_iff {r : Resolver} {name : String} {bytes : List UInt8} {s : Service} :
    r.readService name bytes = .ok s ↔
      ∃ text, Text.Utf8.decode bytes = .ok text ∧ r.readServiceText name text = .ok s := by
  rw [readService]
  cases Text.Utf8.decode bytes with
  | error fault => simp
  | ok text => simp

/-- Blanks and the end of a line above a definition are seen in its text only. -/
theorem readMessageText_below (name text : String) {behind : List Char} (h : IsPadding behind) :
    r.readMessageText name (String.ofList behind ++ "\n" ++ text)
      = (r.readMessageText name text).map fun m =>
          { m with text := String.ofList behind ++ "\n" ++ text } := by
  have hchange : LayoutChange ([] ++ text.toList) ([] ++ (behind ++ '\n' :: text.toList)) :=
    .lineAbove (.inl rfl) (.inl h)
  have htext : (String.ofList behind ++ "\n" ++ text).toList = behind ++ '\n' :: text.toList := by
    simp only [String.toList_append, String.toList_ofList, List.append_assoc]
    rfl
  refine r.readMessageText_layoutChanges name ?_
  rw [htext]
  exact .single hchange

/-- A service is read from the definitions above and below its separator line. -/
theorem readServiceText_separated (name : String) {p q : String} {before behind : List Char}
    (hp : separatorLines p = 0) (hq : separatorLines q = 0) (hstarts : StartsLine p.toList)
    (hbefore : IsPadding before) (hbehind : IsPadding behind) :
    r.readServiceText name
        (p ++ String.ofList (before ++ (separatorMark ++ behind)) ++ "\n" ++ q) = do
      let request ← r.readMessageText (name ++ "Request") p
      let response ← r.readMessageText (name ++ "Response") q
      return {
        package := r.package
        name := name
        text := p ++ String.ofList (before ++ (separatorMark ++ behind)) ++ "\n" ++ q
        request := request
        response := { response with text := String.ofList behind ++ "\n" ++ q } } := by
  rw [readServiceText, sections_separated hp hq hstarts hbefore hbehind]
  simp only [r.readMessageText_below (name ++ "Response") q hbehind]
  cases r.readMessageText (name ++ "Request") p with
  | error e => rfl
  | ok request =>
    cases r.readMessageText (name ++ "Response") q with
    | error e => rfl
    | ok response => rfl

/-- Without a separator, and with more than one, there is no service. -/
theorem readServiceText_of_count (name : String) {text : String} (h : separatorLines text ≠ 1) :
    r.readServiceText name text = .error (.sectionCount (separatorLines text + 1)) := by
  have hlength := length_sections text
  rw [readServiceText]
  split
  · rename_i request response hsections
    rw [hsections] at hlength
    exact absurd (Nat.succ.inj hlength).symm h
  · rw [hlength]

/-- **A service is made of two definitions.**  Of a text with one separator line the definition
above it is the request, the one below it the response, whose text begins with the end of the
separator line; if both are wrong, the request's error counts.  The service keeps the whole text,
has the request's fingerprint, and imports what the two import, of a package that both need the
request's path.  A text with any other number of separator lines has one section more than that,
and is no service. -/
theorem readService_sections (name : String) :
    (∀ p q : String, separatorLines p = 0 → separatorLines q = 0 → StartsLine p.toList →
      r.readService name (Text.Utf8.encode (p ++ "---\n" ++ q)) = do
        let request ← r.readMessage (name ++ "Request") (Text.Utf8.encode p)
        let response ← r.readMessage (name ++ "Response") (Text.Utf8.encode q)
        return {
          package := r.package
          name := name
          text := p ++ "---\n" ++ q
          request := request
          response := { response with text := "\n" ++ q } }) ∧
    (∀ s : Service, s.fingerprint = s.request.fingerprint ∧
      ∀ package, s.dependencies.find? package
        = (s.request.dependencies.find? package).or (s.response.dependencies.find? package)) ∧
    (∀ text : String, separatorLines text ≠ 1 →
      r.readService name (Text.Utf8.encode text)
        = .error (.sectionCount (separatorLines text + 1))) := by
  refine ⟨fun p q hp hq hstarts => ?_, fun s => ?_, fun text hcount => ?_⟩
  · have hnone : IsPadding [] := List.forall_mem_nil _
    have hread := r.readServiceText_separated name hp hq hstarts hnone hnone
    have hline : p ++ String.ofList ([] ++ (separatorMark ++ [])) ++ "\n" = p ++ "---\n" :=
      String.append_assoc
    have hend : String.ofList [] ++ "\n" ++ q = "\n" ++ q := rfl
    rw [hline, hend] at hread
    simp only [readService_encode, readMessage_encode]
    exact hread
  · exact ⟨rfl, Dictionary.find?_fillFrom s.request.dependencies s.response.dependencies⟩
  · rw [readService_encode, r.readServiceText_of_count name hcount]

end Resolver

/-! ## A service -/

namespace Garden

/-- A plot is asked for a pot, and answers with the beds that were dug; a second separator line
makes it three sections. -/
theorem readService_plot :
    (resolver.readService "Plot" (Text.Utf8.encode ("Pot pot\n" ++ "---\n" ++ " bool[2] dug"))).map
        (fun s => (s.request.declared, s.response.text, s.response.declared))
      = .ok (([⟨"pot", "Pot", .single, .own "Pot"⟩], []), "\n bool[2] dug",
        ([⟨"dug", "bool", .exactly 2, .primitive .bool⟩], [])) ∧
    resolver.readService "Plot" (Text.Utf8.encode "---\nPot pot\n --- \r\n")
      = .error (.sectionCount 3) := by
  obtain ⟨hread, -, hcount⟩ := Resolver.readService_sections resolver "Plot"
  have hstarts : StartsLine "Pot pot\n".toList := .inr ⟨"Pot pot".toList, rfl⟩
  have htwo : separatorLines "---\nPot pot\n --- \r\n" = 2 := by decide
  constructor
  · rw [hread _ _ (by decide) (by decide) hstarts, Resolver.readMessage_encode,
      Resolver.readMessage_encode]
    rfl
  · rw [hcount _ (by rw [htwo]; decide), htwo]

end Garden

end Missive
