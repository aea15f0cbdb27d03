import Missive.Proofs.Walking
/-!
# Where messages end

The bytes of a message tell where it ends.  So whatever is behind them does not matter, and where
some of them are missing the message is reported as cut short, with nothing else that could be wrong
coming first: neither a limit nor a text is judged before all of its bytes are there.

* `Source.StopsInside`, `Source.Cuts` -- a source has only the first ones of some bytes, and then it
  stops, or ends;
* `Decoded.CutShort` -- the input ended inside an element;
* `Delimits` -- the invariant: what one read takes off a source, the other one takes off every
  source that starts with the same bytes, and where it ends inside of them it reports that;
* `Delimits.andThen`, `Delimits.behindCount` -- reads one after the other;
* `Registry.decodeElement_delimits`, `Registry.decodeMessage_delimits` -- elements and messages;
* `Registry.decode_of_take`, `Registry.decode_of_cut` -- whole messages.
-/

namespace Missive

/-! ## Sources that end too early -/

/-- The source has some of these bytes, the first ones, but not all of them. -/
def Source.StopsInside (s : Source) (bytes : Bytes) : Prop :=
  ∃ more, more ≠ [] ∧ bytes = s.pending ++ more

namespace Source.StopsInside

variable {s : Source} {a b : Bytes}

theorem length_lt (h : s.StopsInside a) : s.pending.length < a.length := by
  obtain ⟨more, hne, rfl⟩ := h
  rw [List.length_append]
  exact Nat.lt_add_of_pos_right (List.length_pos_iff.2 hne)

theorem not_nil : ¬s.StopsInside [] := by
  intro h
  exact Nat.not_lt_zero _ h.length_lt

/-- A source that stops inside two pieces stops inside the first one, or gives it and stops inside
the second one. -/
theorem split (h : s.StopsInside (a ++ b)) :
    s.StopsInside a ∨ ∃ t, s.Reads a t ∧ t.StopsInside b := by
  obtain ⟨more, hne, heq⟩ := h
  rcases List.append_eq_append_iff.1 heq with ⟨c, hp, hb⟩ | ⟨c, ha, hm⟩
  · exact .inr ⟨⟨c, s.consumed + a.length, s.stop⟩, ⟨hp, rfl, rfl⟩, more, hne, hb⟩
  · by_cases hc : c = []
    · subst hc
      rw [List.append_nil] at ha
      refine .inr ⟨⟨[], s.consumed + a.length, s.stop⟩, ⟨?_, rfl, rfl⟩, more, hne, hm.symm⟩
      rw [ha, List.append_nil]
    · exact .inl ⟨c, hc, ha⟩

end Source.StopsInside

/-- The source ends inside these bytes. -/
structure Source.Cuts (s : Source) (bytes : Bytes) : Prop where
  stop : s.stop = .ended
  pending : ∃ more, more ≠ [] ∧ bytes = s.pending ++ more

namespace Source.Cuts

variable {s : Source} {a b : Bytes}

theorem stopsInside (h : s.Cuts a) : s.StopsInside a :=
  h.pending

theorem length_lt (h : s.Cuts a) : s.pending.length < a.length :=
  h.stopsInside.length_lt

theorem not_nil : ¬s.Cuts [] :=
  fun h => Source.StopsInside.not_nil h.stopsInside

/-- A source that ends inside two pieces ends inside the first one, or gives it and ends inside the
second one. -/
theorem split (h : s.Cuts (a ++ b)) : s.Cuts a ∨ ∃ t, s.Reads a t ∧ t.Cuts b := by
  rcases h.stopsInside.split with ha | ⟨t, hr, hb⟩
  · exact .inl ⟨h.stop, ha⟩
  · exact .inr ⟨t, hr, hr.stop.trans h.stop, hb⟩

end Source.Cuts

/-- The input ended inside an element. -/
def Decoded.CutShort {α : Type} (r : Decoded α) : Prop :=
  ∃ e kind, r.1 = .error (.wire e) ∧ e.root = .truncated kind

namespace Decoded.CutShort

variable {α β : Type} {r : Decoded α}

theorem andThen (h : CutShort r) (next : α → Source → Decoded β) :
    CutShort (Decoded.andThen r next) := by
  obtain ⟨e, kind, he, hroot⟩ := h
  rcases r with ⟨_ | _, _⟩
  · cases he
    exact ⟨e, kind, rfl, hroot⟩
  · cases he

theorem mapValue (make : α → β) (h : CutShort r) : CutShort (Decoded.mapValue make r) := by
  obtain ⟨e, kind, he, hroot⟩ := h
  rcases r with ⟨_ | _, _⟩
  · cases he
    exact ⟨e, kind, rfl, hroot⟩
  · cases he

theorem inField (label : String) (h : CutShort r) : CutShort (Decoded.inField label r) := by
  obtain ⟨e, kind, he, hroot⟩ := h
  rcases r with ⟨_ | _, _⟩
  · cases he
    exact ⟨.inField label e, kind, rfl, hroot⟩
  · cases he

theorem not_ranOut (h : CutShort r) : ¬RanOut r := by
  rintro ⟨name, hr⟩
  obtain ⟨e, kind, he, -⟩ := h
  rw [he] at hr
  cases hr

end Decoded.CutShort

/-! ## Reads that know where they end -/

/-- What `read` takes off a source, `again` takes off every source in `within` that starts in the
same way; and if such a source ends before, `again` reports it. -/
def Delimits {α : Type} (within : Source → Prop) (read again : Source → Decoded α) : Prop :=
  ∀ s a t, read s = (.ok a, t) → ∃ bytes, s.Reads bytes t ∧
    (∀ s' t', within s' → s'.Reads bytes t' → again s' = (.ok a, t')) ∧
    ∀ s', within s' → s'.Cuts bytes → Decoded.CutShort (again s')

namespace Delimits

variable {α β : Type} {within inner : Source → Prop} {read again : Source → Decoded α}

/-- A read of nothing. -/
theorem of_result (r : Except CodecError α) :
    Delimits within (fun s => (r, s)) (fun s => (r, s)) := by
  intro s a t h
  obtain ⟨rfl, rfl⟩ := Prod.mk.inj h
  refine ⟨[], .refl s, fun s' t' _ hr => ?_, fun s' _ hc => absurd hc Source.Cuts.not_nil⟩
  rw [(hr.unique (.refl s') rfl).2]

/-- A read that always fails takes nothing off a source. -/
theorem of_error {e : Source → CodecError} {t : Source → Source}
    (h : ∀ s, read s = (.error (e s), t s)) : Delimits within read again := by
  intro s a u hread
  cases (h s).symm.trans hread

/-- For the sources in question it only matters what `again` does there. -/
theorem congr {within' : Source → Prop} {again' : Source → Decoded α}
    (h : Delimits within read again) (hw : ∀ s, within' s → within s ∧ again' s = again s) :
    Delimits within' read again' := by
  intro s a t hread
  obtain ⟨bytes, hr, hsame, hcut⟩ := h s a t hread
  refine ⟨bytes, hr, fun s' t' hs hr' => ?_, fun s' hs hc => ?_⟩
  · rw [(hw s' hs).2]
    exact hsame s' t' (hw s' hs).1 hr'
  · rw [(hw s' hs).2]
    exact hcut s' (hw s' hs).1 hc

theorem mapValue (make : α → β) (h : Delimits within read again) :
    Delimits within (fun s => Decoded.mapValue make (read s))
      (fun s => Decoded.mapValue make (again s)) := by
  intro s b t hread
  obtain ⟨a, ha, rfl⟩ := Decoded.mapValue_eq_ok hread
  obtain ⟨bytes, hr, hsame, hcut⟩ := h s a t ha
  refine ⟨bytes, hr, fun s' t' hw hr' => ?_, fun s' hw hc => (hcut s' hw hc).mapValue make⟩
  show Decoded.mapValue make (again s') = _
  rw [hsame s' t' hw hr', Decoded.mapValue_ok]

theorem inField (label : String) (h : Delimits within read again) :
    Delimits within (fun s => Decoded.inField label (read s))
      (fun s => Decoded.inField label (again s)) := by
  intro s a t hread
  obtain ⟨bytes, hr, hsame, hcut⟩ := h s a t (Decoded.inField_eq_ok hread)
  refine ⟨bytes, hr, fun s' t' hw hr' => ?_, fun s' hw hc => (hcut s' hw hc).inField label⟩
  show Decoded.inField label (again s') = _
  rw [hsame s' t' hw hr', Decoded.inField_ok]

/-- Whether a read takes bytes is seen from the bytes that it takes. -/
theorem moved_iff {s t : Source} {bytes : Bytes} (h : s.Reads bytes t) :
    (t.consumed != s.consumed) = (bytes.length != 0) := by
  rw [h.consumed, Bool.eq_iff_iff, bne_iff_ne, bne_iff_ne]
  omega

/-- One read after the other.  The second one may depend on whether the first one took any bytes. -/
theorem andThenMoved {next nextAgain : Bool → α → Source → Decoded β}
    (h : Delimits within read again)
    (hi : ∀ s a t bytes, read s = (.ok a, t) → s.Reads bytes t →
      ∀ s' t', within s' → s'.Reads bytes t' → inner t')
    (hn : ∀ moved a, Delimits inner (next moved a) (nextAgain moved a)) :
    Delimits within
      (fun s => Decoded.andThen (read s) fun a t => next (t.consumed != s.consumed) a t)
      (fun s => Decoded.andThen (again s) fun a t => nextAgain (t.consumed != s.consumed) a t) := by
  intro s b u hread
  obtain ⟨a, t, ha, hb⟩ := Decoded.andThen_eq_ok hread
  obtain ⟨first, hfirst, hsame, hcut⟩ := h s a t ha
  -- in terms of the bytes, so that it is the same for every source that starts with them
  rw [moved_iff hfirst] at hb
  obtain ⟨second, hsecond, hsame', hcut'⟩ := hn _ a t b u hb
  refine ⟨first ++ second, hfirst.append hsecond, fun s' u' hw hr => ?_, fun s' hw hc => ?_⟩
  · obtain ⟨t', hr₁, hr₂⟩ := hr.split
    show Decoded.andThen (again s') _ = _
    rw [hsame s' t' hw hr₁, Decoded.andThen_ok, moved_iff hr₁]
    exact hsame' t' u' (hi s a t first ha hfirst s' t' hw hr₁) hr₂
  · show Decoded.CutShort (Decoded.andThen (again s') _)
    rcases hc.split with hc | ⟨t', hr₁, hc⟩
    · exact (hcut s' hw hc).andThen _
    · rw [hsame s' t' hw hr₁, Decoded.andThen_ok, moved_iff hr₁]
      exact hcut' t' (hi s a t first ha hfirst s' t' hw hr₁) hc

theorem andThen {next nextAgain : α → Source → Decoded β}
    (shrinks : ∀ s t, within s → s.Passes t → within t) (h : Delimits within read again)
    (hn : ∀ a, Delimits within (next a) (nextAgain a)) :
    Delimits within (fun s => Decoded.andThen (read s) next)
      (fun s => Decoded.andThen (again s) nextAgain) :=
  h.andThenMoved (fun _ _ _ bytes _ _ s' t' hw hr => shrinks s' t' hw ⟨bytes, hr⟩) fun _ a => hn a

end Delimits

/-! ## Counts and elements -/

theorem decodeCount_of_reads {n : Nat} {s t : Source} (hn : n < lengthLimit)
    (h : s.Reads (Bytes.ofNat 4 n) t) : decodeCount s = (.ok n, t) := by
  rw [decodeCount, readCount_of_reads hn h]
  rfl

theorem reads_of_decodeCount {n : Nat} {s t : Source} (h : decodeCount s = (.ok n, t)) :
    n < lengthLimit ∧ s.Reads (Bytes.ofNat 4 n) t :=
  reads_of_readCount (readCount_of_decodeCount h)

theorem readCount_of_cuts {n : Nat} {s : Source} (h : s.Cuts (Bytes.ofNat 4 n)) :
    ∃ t, readCount s = (.error (.truncated (.primitive .uint32)), t) := by
  have hlt := h.length_lt
  rw [Bytes.length_ofNat] at hlt
  simp only [readCount, Source.exact_of_short hlt, h.stop]
  exact ⟨_, rfl⟩

/-- Behind a count a source is shorter than before. -/
theorem Delimits.behindCount {β : Type} {within inner : Source → Prop}
    (hi : ∀ s t : Source, within s → t.pending.length < s.pending.length → inner t)
    {next nextAgain : Nat → Source → Decoded β}
    (hn : ∀ n, Delimits inner (next n) (nextAgain n)) :
    Delimits within (fun s => Decoded.andThen (decodeCount s) next)
      (fun s => Decoded.andThen (decodeCount s) nextAgain) := by
  have hcount : Delimits within decodeCount decodeCount := by
    intro s n t h
    obtain ⟨hlimit, hr⟩ := reads_of_decodeCount h
    refine ⟨_, hr, fun s' t' _ hr' => decodeCount_of_reads hlimit hr', fun s' _ hc => ?_⟩
    obtain ⟨u, hu⟩ := readCount_of_cuts hc
    refine ⟨.truncated (.primitive .uint32), _, ?_, rfl⟩
    rw [decodeCount, hu]
    rfl
  -- the four bytes of the count are missing behind it
  refine hcount.andThenMoved (fun s n t bytes hread hr s' t' hw hr' => ?_) fun _ n => hn n
  have hbytes := (reads_of_decodeCount hread).2.length_pending
  have hsame := hr.length_pending
  have hlength := hr'.length_pending
  rw [Bytes.length_ofNat] at hbytes
  exact hi s' t' hw (by omega)

/-- Reads an element of a primitive, as a step of decoding. -/
def Primitive.decode (p : Primitive) (s : Source) : Decoded Datum :=
  ((p.read s).1.mapError .wire, (p.read s).2)

theorem Primitive.decode_eq_ok {p : Primitive} {d : Datum} {s t : Source}
    (h : p.decode s = (.ok d, t)) : p.read s = (.ok d, t) := by
  rw [decode] at h
  rcases hr : p.read s with ⟨e | d', u⟩
  · rw [hr] at h
    cases h
  · rw [hr] at h
    cases h
    rfl

/-- A text that was read stands behind its length. -/
theorem Primitive.read_string_eq_ok {d : Datum} {s t : Source}
    (h : Primitive.string.read s = (.ok d, t)) :
    ∃ body text u, body.length < lengthLimit ∧ s.Reads (Bytes.ofNat 4 body.length) u ∧
      u.Reads body t ∧ Text.Utf8.decode body = .ok text ∧ d = .string text := by
  rw [read_string] at h
  rcases hc : readCount s with ⟨e | n, u⟩
  · simp [hc] at h
  · obtain ⟨hlimit, hcount⟩ := reads_of_readCount hc
    simp only [hc] at h
    rcases u.exact_cases n with ⟨body, v, he, rfl, hbody⟩ | ⟨-, he, -⟩
    · simp only [he] at h
      cases hd : Text.Utf8.decode body with
      | error fault => simp [hd] at h
      | ok text =>
        simp only [hd, Prod.mk.injEq, Except.ok.injEq] at h
        obtain ⟨rfl, rfl⟩ := h
        exact ⟨body, text, u, hlimit, hcount, hbody, hd, rfl⟩
    · simp [he] at h

/-- An element of a fixed width, or a text behind its length. -/
theorem Primitive.decode_delimits (p : Primitive) (within : Source → Prop) :
    Delimits within p.decode p.decode := by
  intro s d t h
  have hread := decode_eq_ok h
  cases hw : p.width with
  | some width =>
    rw [read_of_width hw] at hread
    rcases s.exact_cases width with ⟨bytes, u, he, rfl, hr⟩ | ⟨-, he, -⟩
    · rw [he] at hread
      cases hread
      refine ⟨bytes, hr, fun s' t' _ hr' => ?_,
        fun s' _ hc => ⟨.truncated (.primitive p), _, ?_, rfl⟩⟩
      · rw [decode, read_of_width hw, Source.exact_of_reads hr']
        rfl
      · rw [decode, read_of_width hw, Source.exact_of_short hc.length_lt, hc.stop]
        rfl
    · rw [he] at hread
      cases hread
  | none =>
    cases p <;> simp only [width, reduceCtorEq] at hw
    case string =>
      obtain ⟨body, text, u, hlimit, hcount, hbody, htext, rfl⟩ := read_string_eq_ok hread
      refine ⟨_, hcount.append hbody, fun s' t' _ hr' => ?_, fun s' _ hc => ?_⟩
      · obtain ⟨u', hcount', hbody'⟩ := hr'.split
        rw [decode, read_string, readCount_of_reads hlimit hcount']
        simp only [Source.exact_of_reads hbody', htext]
        rfl
      · -- the cut is inside the length, or behind it and then inside the text, before it is judged
        rcases hc.split with hc | ⟨u', hcount', hc⟩
        · obtain ⟨u', hu⟩ := readCount_of_cuts hc
          refine ⟨.truncated (.primitive .uint32), _, ?_, rfl⟩
          rw [decode, read_string, hu]
          rfl
        · refine ⟨.truncated (.primitive .string), _, ?_, rfl⟩
          rw [decode, read_string, readCount_of_reads hlimit hcount']
          simp only [Source.exact_of_short hc.length_lt, hc.stop]
          rfl

/-! ## Arrays and messages -/

theorem decodeElement_primitive_eq (reg : Registry) (budget : Nat) (owner : String) (p : Primitive)
    (s : Source) : reg.decodeElement budget owner (.primitive p) s
      = Decoded.mapValue Value.datum (p.decode s) := by
  rw [Registry.decodeElement_primitive, Primitive.decode]
  rcases p.read s with ⟨_ | _, _⟩ <;> rfl

section

variable {element : ElementDecoder}
  (delimits : ∀ owner type, Delimits (fun _ => True) (element owner type) (element owner type))

include delimits

theorem decodeItems_delimits (owner : String) (type : TypeRef) (n : Nat) :
    Delimits (fun _ => True) (decodeItems (element owner type) n [])
      (decodeItems (element owner type) n []) := by
  induction n with
  | zero => exact .of_result (.ok [])
  | succ n ih =>
    rw [funext (decodeItems_succ (element owner type) n)]
    exact (delimits owner type).andThen (fun _ _ _ _ => trivial) fun v => ih.mapValue (v :: ·)

theorem decodeField_delimits (reg : Registry) (owner : String) (f : Field) :
    Delimits (fun _ => True) (decodeField reg element owner f)
      (decodeField reg element owner f) := by
  cases ha : f.shape.isArray with
  | false =>
    rw [funext (decodeField_single reg element owner ha)]
    exact delimits owner f.type
  | true =>
    rw [funext (decodeField_array reg element owner ha)]
    refine .mapValue Value.list (.behindCount (fun _ _ _ _ => trivial) fun n => ?_)
    exact .andThen (fun _ _ _ _ => trivial) (.of_result (admitCount reg owner f n)) fun _ =>
      decodeItems_delimits delimits owner f.type n

theorem decodeFields_delimits (reg : Registry) (owner : String) (fields : List Field)
    (members : Members) :
    Delimits (fun _ => True) (decodeFields reg element owner fields members)
      (decodeFields reg element owner fields members) := by
  induction fields generalizing members with
  | nil => exact .of_result (.ok members)
  | cons f rest ih =>
    rw [funext (decodeFields_step reg element owner f rest members)]
    exact ((decodeField_delimits delimits reg owner f).inField f.label).andThen
      (fun _ _ _ _ => trivial) fun v => ih _

end

namespace Registry

variable {reg : Registry}

/-- The bytes of an element tell where it ends. -/
theorem decodeElement_delimits (reg : Registry) (n : Nat) (owner : String) (type : TypeRef) :
    Delimits (fun _ => True) (reg.decodeElement n owner type) (reg.decodeElement n owner type) := by
  rcases reg.type_cases owner type with ⟨p, rfl⟩ | ⟨e, hk, he⟩ | ⟨m, hm⟩
  · rw [funext (decodeElement_primitive_eq reg n owner p)]
    exact (p.decode_delimits _).mapValue Value.datum
  · rw [funext (decodeElement_unresolved hk he n)]
    exact .of_result (.error e)
  · cases n with
    | zero =>
      rw [funext (decodeElement_zero hm)]
      exact .of_result (.error _)
    | succ n =>
      rw [funext (decodeElement_succ hm n)]
      have hfields :=
        decodeFields_delimits (decodeElement_delimits reg n) reg m.package m.fields []
      exact hfields.mapValue Value.struct

/-- The bytes of a message tell where it ends. -/
theorem decodeMessage_delimits (reg : Registry) (n : Nat) (m : Message) :
    Delimits (fun _ => True) (reg.decodeMessage n m) (reg.decodeMessage n m) :=
  decodeFields_delimits (reg.decodeElement_delimits n) reg m.package m.fields []

/-! ## Whole messages -/

/-- What is decoded from the start of a byte string. -/
theorem decode_eq_ok {name : String} {bytes : Bytes} {n : Nat} {members : Members}
    (h : reg.decode name bytes = (n, .ok members)) :
    ∃ m t, reg.find? name = some m ∧ t.consumed = n ∧
      reg.decodeMessage (reg.nestingBudget bytes.length) m (.ofBytes bytes) = (.ok members, t) := by
  rw [decode_eq_decodeWithin] at h
  cases hm : reg.find? name with
  | none => simp [decodeWithin, hm] at h
  | some m =>
    simp only [decodeWithin, hm, Prod.mk.injEq] at h
    exact ⟨m, _, rfl, h.1, Prod.ext h.2 rfl⟩

end Registry

namespace Source

variable {bytes piece other : Bytes} {t : Source}

theorem length_of_reads (h : (ofBytes bytes).Reads piece t) : piece.length = t.consumed := by
  have hc := h.consumed
  rw [show (ofBytes bytes).consumed = 0 from rfl, Nat.zero_add] at hc
  exact hc.symm

/-- What is taken off a byte string are its first bytes. -/
theorem take_of_reads (h : (ofBytes bytes).Reads piece t) : bytes.take t.consumed = piece := by
  have hp : bytes = piece ++ t.pending := h.pending
  rw [hp, ← length_of_reads h, List.take_left]

/-- A byte string with the same first bytes gives them, too. -/
theorem reads_of_take (h : other.take piece.length = piece) :
    (ofBytes other).Reads piece ⟨other.drop piece.length, piece.length, .ended⟩ := by
  have hsplit := List.take_append_drop piece.length other
  rw [h] at hsplit
  exact ⟨hsplit.symm, (Nat.zero_add _).symm, rfl⟩

/-- A byte string with fewer of the bytes ends inside of them. -/
theorem cuts_of_take (h : (ofBytes bytes).Reads piece t) {k : Nat} (hk : k < t.consumed) :
    (ofBytes (bytes.take k)).Cuts piece := by
  rw [← length_of_reads h] at hk
  have hp : bytes = piece ++ t.pending := h.pending
  refine ⟨rfl, piece.drop k, ?_, ?_⟩
  · rw [ne_eq, List.drop_eq_nil_iff]
    exact Nat.not_le.2 hk
  · show piece = bytes.take k ++ piece.drop k
    rw [hp, List.take_append_of_le_length (Nat.le_of_lt hk), List.take_append_drop]

end Source

namespace Registry

variable {reg : Registry} {name : String} {bytes : Bytes} {n : Nat} {members : Members}

/-- Only the bytes of a message matter when it is decoded. -/
theorem decode_of_take (h : reg.decode name bytes = (n, .ok members)) :
    (bytes.take n).length = n ∧
      ∀ other, other.take n = bytes.take n → reg.decode name other = (n, .ok members) := by
  obtain ⟨m, t, hm, rfl, hmessage⟩ := decode_eq_ok h
  obtain ⟨piece, hr, hsame, -⟩ := reg.decodeMessage_delimits _ m _ _ _ hmessage
  rw [Source.take_of_reads hr]
  refine ⟨Source.length_of_reads hr, fun other hother => ?_⟩
  rw [← Source.length_of_reads hr] at hother ⊢
  have hagain := hsame _ _ trivial (Source.reads_of_take hother)
  have hdone : ¬Decoded.RanOut
      (reg.decodeMessage (reg.nestingBudget bytes.length) m (.ofBytes other)) := by
    rintro ⟨around, hx⟩
    rw [hagain] at hx
    cases hx
  rw [decode_of_decodeMessage hm hdone, hagain]

/-- Where a part of a message is missing, the decoder and the walk report that. -/
theorem decode_of_cut (h : reg.decode name bytes = (n, .ok members)) {k : Nat} (hk : k < n) :
    ∃ e kind, (reg.decode name (bytes.take k)).2 = .error (.wire e) ∧ e.root = .truncated kind ∧
      reg.extent name (bytes.take k) = .error (.wire e) := by
  obtain ⟨m, t, hm, rfl, hmessage⟩ := decode_eq_ok h
  obtain ⟨piece, hr, -, hcut⟩ := reg.decodeMessage_delimits _ m _ _ _ hmessage
  have hshort := hcut _ trivial (Source.cuts_of_take hr hk)
  have hdecode := decode_of_decodeMessage hm hshort.not_ranOut
  obtain ⟨e, kind, he, hroot⟩ := hshort
  rw [he] at hdecode
  have hfinishes : reg.Finishes name (bytes.take k) := by
    rw [finishes_iff, hdecode]
    exact fun around h => by cases h
  refine ⟨e, kind, by rw [hdecode], hroot, ?_⟩
  -- the walk fails with the same error, since that is not about a text
  rcases extent_cases hfinishes with ⟨_, _, hd, -⟩ | ⟨_, e', hd, hx⟩
  · rw [hd] at hdecode
    cases hdecode
  · rw [hd] at hdecode
    obtain rfl : e' = .wire e := Except.error.inj (congrArg Prod.snd hdecode)
    refine hx.resolve_right ?_
    rintro ⟨inner, fault, hinner, hencoding⟩
    cases hinner
    cases hroot.symm.trans hencoding

end Registry

end Missive
