import Mathlib.Data.List.Nodup
import Missive.Proofs.Overlays
import Missive.Proofs.Registries
import Missive.Proofs.Statements
/-!
# How registries come about

A registry is made by one attempt after the other to add a message, some of which fail.  Every name
belongs to the first attempt that has something to offer for it, and nothing is ever taken back.

* `Registration`, `Registry.attempt`, `Registry.run` -- the attempts, one of them, and all of them;
* `fullName_inj` -- a full name is of one package and name;
* `Registry.readDescriptor_eq_error_iff` -- the descriptors that cannot be read;
* `Registration.fullName_of_message` -- a message is called what the attempt says;
* `Registry.status_eq_error_iff`, `Registry.after_of_error` -- the three ways to fail, none of which
  leaves a trace;
* `Registry.find?_run` -- the message of a name is the first one that is offered;
* `Registry.run_perm` -- the order of attempts matters only among those of one name;
* `Registry.written_once` -- what all registries have in common.
-/

namespace Missive

namespace Text

variable {separator : Char}

theorem splitOnce_eq_none_iff {cs : List Char} :
    splitOnce separator cs = none ↔ separator ∉ cs := by
  induction cs with
  | nil => exact ⟨fun _ => List.not_mem_nil, fun _ => rfl⟩
  | cons c rest ih =>
    rw [splitOnce, List.mem_cons]
    by_cases h : c = separator
    · rw [if_pos h]
      exact ⟨fun hnone => (Option.some_ne_none _ hnone).elim, fun hmem => (hmem (.inl h.symm)).elim⟩
    · rw [if_neg h, Option.map_eq_none_iff, ih]
      exact ⟨fun hrest hmem => hmem.elim (fun heq => h heq.symm) hrest, fun hmem hrest =>
        hmem (.inr hrest)⟩

theorem splitOnce_eq_some_iff {cs a b : List Char} :
    splitOnce separator cs = some (a, b) ↔ cs = a ++ separator :: b ∧ separator ∉ a := by
  induction cs generalizing a with
  | nil => exact ⟨nofun, fun h => by simp at h⟩
  | cons c rest ih =>
    rw [splitOnce]
    by_cases h : c = separator
    · subst h
      rw [if_pos rfl, Option.some_inj, Prod.mk_inj]
      constructor
      · rintro ⟨rfl, rfl⟩
        exact ⟨rfl, List.not_mem_nil⟩
      · rintro ⟨hcs, ha⟩
        cases a with
        | nil => exact ⟨rfl, (List.cons.inj hcs).2⟩
        | cons x a => exact (ha ((List.cons.inj hcs).1 ▸ List.mem_cons_self)).elim
    · rw [if_neg h, Option.map_eq_some_iff]
      constructor
      · rintro ⟨⟨a', b'⟩, hparts, heq⟩
        obtain ⟨rfl, rfl⟩ := Prod.mk.inj heq
        obtain ⟨rfl, ha⟩ := ih.1 hparts
        exact ⟨rfl, fun hmem => (List.mem_cons.1 hmem).elim (fun heq => h heq.symm) ha⟩
      · rintro ⟨hcs, ha⟩
        cases a with
        | nil => exact (h (List.cons.inj hcs).1).elim
        | cons x a =>
          obtain ⟨rfl, hrest⟩ := List.cons.inj hcs
          exact ⟨(a, b), ih.2 ⟨hrest, fun hmem => ha (List.mem_cons_of_mem c hmem)⟩, rfl⟩

end Text

/-- A name that has no entry yet gets one more. -/
theorem Dictionary.size_insert {α : Type} {d : Dictionary α} {name : String}
    (h : d.find? name = none) (value : α) : (d.insert name value).size = d.size + 1 := by
  obtain ⟨entries, sorted⟩ := d
  show (place name value entries).length = entries.length + 1
  have hnone : ∀ e ∈ entries, name ≠ e.1 := fun e he =>
    bne_iff_ne.1 (List.lookup_eq_none_iff.1 h e he)
  clear h sorted
  induction entries with
  | nil => rfl
  | cons entry rest ih =>
    have hne := hnone entry List.mem_cons_self
    rw [place, if_neg hne]
    split
    · rfl
    · rw [List.length_cons, ih fun e he => hnone e (List.mem_cons_of_mem entry he),
        List.length_cons]

/-! ## Attempts -/

/-- An attempt to add to a registry: a message that is at hand, or one that is read from a
descriptor first. -/
inductive Registration where
  | insert (m : Message)
  | register (d : Descriptor)

namespace Registration

/-- The name that an attempt is about. -/
def fullName : Registration → String
  | insert m => m.fullName
  | register d => d.name

/-- The message that is to be added. -/
def message : Registration → Except CodecError Message
  | insert m => .ok m
  | register d => Registry.readDescriptor d

/-- What an attempt has to offer for a name. -/
def offer? (a : Registration) (name : String) : Option Message :=
  a.message.toOption.filter (·.fullName == name)

end Registration

namespace Registry

/-- Makes an attempt. -/
def attempt (reg : Registry) : Registration → Changed
  | .insert m => reg.insert m
  | .register d => reg.register d

/-- The registry that an attempt leaves behind. -/
def after (reg : Registry) (a : Registration) : Registry :=
  (reg.attempt a).registry

/-- The registry after these attempts. -/
def run (reg : Registry) (attempts : List Registration) : Registry :=
  attempts.foldl after reg

/-- How many of these attempts succeed, each on the registry that those before it have left. -/
def successes (reg : Registry) : List Registration → Nat
  | [] => 0
  | a :: rest => (reg.attempt a).status.isOk.toNat + (reg.after a).successes rest

end Registry

/-! ## Full names -/

theorem toList_fullName (package name : String) :
    s!"{package}/{name}".toList = package.toList ++ '/' :: name.toList := by
  simp [toString]

/-- What has a slash in it is the full name of something. -/
theorem exists_fullName {full : String} (h : '/' ∈ full.toList) :
    ∃ package name : String, full = s!"{package}/{name}" ∧ '/' ∉ package.toList := by
  obtain ⟨a, b, hfull, ha⟩ := List.eq_append_cons_of_mem h
  refine ⟨String.ofList a, String.ofList b, String.toList_inj.1 ?_, ?_⟩
  · rw [toList_fullName, String.toList_ofList, String.toList_ofList, hfull]
  · rwa [String.toList_ofList]

namespace Registry

theorem splitName_of_not_mem {name : String} (h : '/' ∉ name.toList) :
    splitName name = .error (.unknownMessage name) := by
  rw [splitName, Text.splitOnce_eq_none_iff.2 h]

theorem splitName_fullName {package : String} (h : '/' ∉ package.toList) (name : String) :
    splitName s!"{package}/{name}" = .ok (package, name) := by
  rw [splitName, Text.splitOnce_eq_some_iff.2 ⟨toList_fullName package name, h⟩]
  dsimp only
  rw [String.ofList_toList, String.ofList_toList]

end Registry

/-- A full name is of one package and name only. -/
theorem fullName_inj {package name home other : String} (hpackage : '/' ∉ package.toList)
    (hhome : '/' ∉ home.toList) (h : s!"{package}/{name}" = s!"{home}/{other}") :
    package = home ∧ name = other := by
  have hsplit := Registry.splitName_fullName hpackage name
  rw [h, Registry.splitName_fullName hhome other] at hsplit
  exact Prod.mk.inj (Except.ok.inj hsplit.symm)

/-! ## What is read from a descriptor -/

namespace Registry

variable {d : Descriptor} {package name : String}

theorem readDescriptor_nameless (h : '/' ∉ d.name.toList) :
    readDescriptor d = .error (.unknownMessage d.name) := by
  rw [readDescriptor, splitName_of_not_mem h]

theorem readDescriptor_named (hname : d.name = s!"{package}/{name}")
    (hpackage : '/' ∉ package.toList) :
    readDescriptor d
      = (Resolver.readMessageText ⟨Config.standard, package⟩ name d.text).mapError .definition := by
  rw [readDescriptor, hname, splitName_fullName hpackage]

/-- The message that is read is called like the descriptor. -/
theorem fullName_of_readDescriptor {m : Message} (h : readDescriptor d = .ok m) :
    m.fullName = d.name := by
  by_cases hslash : '/' ∈ d.name.toList
  · obtain ⟨package, name, hname, hpackage⟩ := exists_fullName hslash
    rw [readDescriptor_named hname hpackage, Except.mapError_eq_ok_iff] at h
    exact (Resolver.fullName_of_readMessageText h).trans hname.symm
  · rw [readDescriptor_nameless hslash] at h
    cases h

/-- A descriptor whose name has no package, or whose definition cannot be read. -/
theorem readDescriptor_eq_error_iff {e : CodecError} :
    readDescriptor d = .error e ↔
      ('/' ∉ d.name.toList ∧ e = .unknownMessage d.name) ∨
      ∃ (package name : String) (cause : DefinitionError),
        d.name = s!"{package}/{name}" ∧ '/' ∉ package.toList ∧
        Resolver.readMessageText ⟨Config.standard, package⟩ name d.text = .error cause ∧
        e = .definition cause := by
  constructor
  · intro h
    by_cases hslash : '/' ∈ d.name.toList
    · obtain ⟨package, name, hname, hpackage⟩ := exists_fullName hslash
      rw [readDescriptor_named hname hpackage] at h
      cases hread : Resolver.readMessageText ⟨Config.standard, package⟩ name d.text with
      | ok m =>
        rw [hread] at h
        cases h
      | error cause =>
        rw [hread] at h
        cases h
        exact .inr ⟨package, name, cause, hname, hpackage, hread, rfl⟩
    · rw [readDescriptor_nameless hslash] at h
      cases h
      exact .inl ⟨hslash, rfl⟩
  · rintro (⟨hslash, rfl⟩ | ⟨package, name, cause, hname, hpackage, hread, rfl⟩)
    · exact readDescriptor_nameless hslash
    · rw [readDescriptor_named hname hpackage, hread, Except.mapError_error]

end Registry

namespace Registration

/-- The message is called what the attempt says, so that a descriptor cannot bring in another
one. -/
theorem fullName_of_message {a : Registration} {m : Message} (h : a.message = .ok m) :
    m.fullName = a.fullName := by
  cases a with
  | insert =>
    cases h
    rfl
  | register d => exact Registry.fullName_of_readDescriptor h

theorem offer?_eq_some_iff {a : Registration} {name : String} {m : Message} :
    a.offer? name = some m ↔ a.message = .ok m ∧ a.fullName = name := by
  rw [offer?, Option.filter_eq_some_iff, beq_iff_eq]
  constructor
  · rintro ⟨hm, rfl⟩
    cases hread : a.message with
    | error e =>
      rw [hread] at hm
      cases hm
    | ok m' =>
      rw [hread] at hm
      cases hm
      exact ⟨rfl, (fullName_of_message hread).symm⟩
  · rintro ⟨hm, rfl⟩
    exact ⟨by rw [hm]; rfl, fullName_of_message hm⟩

end Registration

namespace Registry

variable {reg : Registry} {a b : Registration}

/-! ## One attempt -/

theorem attempt_of_error {e : CodecError} (h : a.message = .error e) :
    reg.attempt a = ⟨.error e, reg⟩ := by
  cases a with
  | insert => cases h
  | register d =>
    have hread : readDescriptor d = .error e := h
    rw [attempt, register, hread]

theorem attempt_of_ok {m : Message} (h : a.message = .ok m) : reg.attempt a = reg.insert m := by
  cases a with
  | insert =>
    cases h
    rfl
  | register d =>
    have hread : readDescriptor d = .ok m := h
    rw [attempt, register, hread]

theorem insert_of_find? {m m' : Message} (h : reg.find? m.fullName = some m') :
    reg.insert m = ⟨.error (.duplicate m.fullName), reg⟩ := by
  rw [insert, if_pos]
  rw [Dictionary.contains, ← find?, h]
  rfl

theorem insert_of_free {m : Message} (h : reg.find? m.fullName = none) :
    reg.insert m = ⟨.ok (), ⟨reg.messages.insert m.fullName m⟩⟩ := by
  rw [insert, if_neg]
  rw [Dictionary.contains, ← find?, h]
  exact Bool.false_ne_true

/-- Why an attempt fails: the name has no package, the definition cannot be read, or the name is
taken. -/
inductive Refuses (reg : Registry) : Registration → CodecError → Prop
  | nameless {d : Descriptor} :
      '/' ∉ d.name.toList → Refuses reg (.register d) (.unknownMessage d.name)
  | unreadable {d : Descriptor} {package name : String} {e : DefinitionError} :
      d.name = s!"{package}/{name}" → '/' ∉ package.toList →
      Resolver.readMessageText ⟨Config.standard, package⟩ name d.text = .error e →
      Refuses reg (.register d) (.definition e)
  | taken {a : Registration} {m m' : Message} :
      a.message = .ok m → reg.find? a.fullName = some m' →
      Refuses reg a (.duplicate a.fullName)

/-- An attempt that fails does so in one of these ways, and leaves the registry as it was; one that
does not fail has put the message under its name, which was free. -/
theorem attempt_cases (reg : Registry) (a : Registration) :
    (∃ e, reg.attempt a = ⟨.error e, reg⟩ ∧ reg.Refuses a e) ∨
      ∃ m, a.message = .ok m ∧ reg.find? a.fullName = none ∧
        reg.attempt a = ⟨.ok (), ⟨reg.messages.insert a.fullName m⟩⟩ := by
  cases hm : a.message with
  | error e =>
    refine .inl ⟨e, attempt_of_error hm, ?_⟩
    cases a with
    | insert => cases hm
    | register d =>
      rcases readDescriptor_eq_error_iff.1 hm with
        ⟨hslash, rfl⟩ | ⟨package, name, cause, hname, hpackage, hread, rfl⟩
      · exact .nameless hslash
      · exact .unreadable hname hpackage hread
  | ok m =>
    have hname := Registration.fullName_of_message hm
    cases hfind : reg.find? a.fullName with
    | some m' =>
      refine .inl ⟨.duplicate a.fullName, ?_, .taken hm hfind⟩
      rw [← hname] at hfind ⊢
      exact (attempt_of_ok hm).trans (insert_of_find? hfind)
    | none =>
      refine .inr ⟨m, rfl, rfl, ?_⟩
      rw [← hname] at hfind ⊢
      exact (attempt_of_ok hm).trans (insert_of_free hfind)

/-- What is refused has no message, or it has one and its name is taken. -/
theorem Refuses.message {e : CodecError} (h : reg.Refuses a e) :
    a.message = .error e ∨
      ∃ m m', a.message = .ok m ∧ reg.find? a.fullName = some m' ∧ e = .duplicate a.fullName := by
  cases h with
  | nameless hslash => exact .inl (readDescriptor_nameless hslash)
  | unreadable hname hpackage hread =>
    exact .inl (readDescriptor_eq_error_iff.2 (.inr ⟨_, _, _, hname, hpackage, hread, rfl⟩))
  | taken hm hfind => exact .inr ⟨_, _, hm, hfind, rfl⟩

/-- An attempt is refused for one reason only. -/
theorem Refuses.status {e : CodecError} (h : reg.Refuses a e) :
    (reg.attempt a).status = .error e := by
  rcases h.message with hm | ⟨m, m', hm, hfind, rfl⟩
  · rw [attempt_of_error hm]
  · rw [← Registration.fullName_of_message hm] at hfind ⊢
    rw [attempt_of_ok hm, insert_of_find? hfind]

/-- An attempt fails in these ways and no other. -/
theorem status_eq_error_iff {e : CodecError} :
    (reg.attempt a).status = .error e ↔ reg.Refuses a e := by
  refine ⟨fun h => ?_, Refuses.status⟩
  rcases reg.attempt_cases a with ⟨e', hfails, hrefused⟩ | ⟨m, -, -, hdone⟩
  · rw [hfails] at h
    cases h
    exact hrefused
  · rw [hdone] at h
    cases h

/-! ## What an attempt leaves -/

/-- **A failing attempt leaves the registry as it was.** -/
theorem after_of_error {e : CodecError} (h : (reg.attempt a).status = .error e) :
    reg.after a = reg := by
  rcases reg.attempt_cases a with ⟨e', hfails, -⟩ | ⟨m, -, -, hdone⟩
  · rw [after, hfails]
  · rw [hdone] at h
    cases h

theorem IsKeyed.after (h : reg.IsKeyed) (a : Registration) : (reg.after a).IsKeyed := by
  cases a with
  | insert m => exact h.insert m
  | register d => exact h.register d

/-- What is there stays, and for a free name the offer is taken. -/
theorem find?_after (reg : Registry) (a : Registration) (name : String) :
    (reg.after a).find? name = (reg.find? name).or (a.offer? name) := by
  rcases reg.attempt_cases a with ⟨e, hfails, hrefused⟩ | ⟨m, hm, hfree, hdone⟩
  · rw [after, hfails]
    cases hoffer : a.offer? name with
    | none => rw [Option.or_none]
    | some m =>
      obtain ⟨hm, rfl⟩ := Registration.offer?_eq_some_iff.1 hoffer
      rcases hrefused.message with hnone | ⟨-, m', -, hfind, -⟩
      · cases hm.symm.trans hnone
      · rw [hfind, Option.some_or]
  · rw [after, hdone, find?, Dictionary.find?_insert]
    by_cases h : name = a.fullName
    · subst h
      rw [if_pos rfl, hfree, Option.none_or, Registration.offer?_eq_some_iff.2 ⟨hm, rfl⟩]
    · have hnone : a.offer? name = none :=
        Option.eq_none_iff_forall_ne_some.2 fun m' hm' =>
          h (Registration.offer?_eq_some_iff.1 hm').2.symm
      rw [if_neg h, hnone, Option.or_none, find?]

theorem size_after (reg : Registry) (a : Registration) :
    (reg.after a).size = (reg.attempt a).status.isOk.toNat + reg.size := by
  rcases reg.attempt_cases a with ⟨e, hfails, -⟩ | ⟨m, -, hfree, hdone⟩
  · rw [after, hfails]
    exact (Nat.zero_add _).symm
  · rw [after, hdone, Nat.add_comm]
    exact Dictionary.size_insert hfree m

theorem eq_of_find? {other : Registry} (h : ∀ name, reg.find? name = other.find? name) :
    reg = other := by
  obtain ⟨messages⟩ := reg
  obtain ⟨messages'⟩ := other
  exact congrArg mk (Dictionary.eq_of_find? h)

/-- Attempts about different names do not get in each other's way. -/
theorem after_comm (h : a.fullName ≠ b.fullName) (reg : Registry) :
    (reg.after a).after b = (reg.after b).after a := by
  refine eq_of_find? fun name => ?_
  simp only [find?_after, Option.or_assoc]
  congr 1
  cases ha : a.offer? name with
  | none => rw [Option.none_or, Option.or_none]
  | some m =>
    have hb : b.offer? name = none := Option.eq_none_iff_forall_ne_some.2 fun m' hm' =>
      h ((Registration.offer?_eq_some_iff.1 ha).2.trans
        (Registration.offer?_eq_some_iff.1 hm').2.symm)
    rw [hb, Option.none_or, Option.or_none]

/-! ## All attempts -/

theorem run_append (reg : Registry) (attempts more : List Registration) :
    reg.run (attempts ++ more) = (reg.run attempts).run more :=
  List.foldl_append

theorem IsKeyed.run (h : reg.IsKeyed) (attempts : List Registration) :
    (reg.run attempts).IsKeyed := by
  induction attempts generalizing reg with
  | nil => exact h
  | cons a rest ih => exact ih (h.after a)

/-- What is there stays, and otherwise the first offer is taken. -/
theorem find?_run (reg : Registry) (attempts : List Registration) (name : String) :
    (reg.run attempts).find? name
      = (reg.find? name).or (attempts.findSome? (·.offer? name)) := by
  induction attempts generalizing reg with
  | nil => exact Option.or_none.symm
  | cons a rest ih =>
    rw [List.findSome?_cons]
    refine (ih (reg.after a)).trans ?_
    rw [find?_after, Option.or_assoc]
    cases a.offer? name <;> rfl

theorem size_run (reg : Registry) (attempts : List Registration) :
    (reg.run attempts).size = reg.size + reg.successes attempts := by
  induction attempts generalizing reg with
  | nil => rfl
  | cons a rest ih =>
    refine (ih (reg.after a)).trans ?_
    rw [size_after, successes, Nat.add_comm _ reg.size, Nat.add_assoc]

/-- In which order attempts about different names are made does not matter. -/
theorem run_perm {attempts others : List Registration} (h : others.Perm attempts)
    (distinct : (attempts.map Registration.fullName).Nodup) (reg : Registry) :
    reg.run others = reg.run attempts := by
  refine (h.symm.foldl_eq' (fun a ha b hb reg => ?_) reg).symm
  by_cases hab : a = b
  · rw [hab]
  · exact after_comm (fun heq => hab (List.inj_on_of_nodup_map distinct ha hb heq)) reg

/-- The registry of a list of messages has the first one of each name. -/
theorem find?_ofMessages (messages : List Message) (name : String) :
    (ofMessages messages).find? name = messages.find? (·.fullName == name) := by
  have hrun : ofMessages messages = empty.run (messages.map .insert) := by
    rw [ofMessages, run, List.foldl_map]
    rfl
  rw [hrun, find?_run, List.findSome?_map]
  exact List.findSome?_guard

/-- **Registries are written once.**  After any attempts every message is stored under its own full
name.  The next attempt fails in one of three ways, and then it leaves everything as it was.  What a
name once leads to it leads to from then on, and that is the first message that was offered for it.
There are as many messages as attempts that succeeded.  And the same attempts in another order lead
to the same registry, so that whatever is encoded, decoded or walked over later comes out the same,
as long as no two of them are about the same name. -/
theorem written_once (attempts : List Registration) :
    (empty.run attempts).IsKeyed ∧
    (∀ a e, (((empty.run attempts).attempt a).status = .error e ↔
        (empty.run attempts).Refuses a e) ∧
      (((empty.run attempts).attempt a).status = .error e →
        ((empty.run attempts).attempt a).registry = empty.run attempts ∧
        empty.run (attempts ++ [a]) = empty.run attempts)) ∧
    (∀ name m, (empty.run attempts).find? name = some m →
      ∀ more, (empty.run (attempts ++ more)).find? name = some m) ∧
    (∀ name, (empty.run attempts).find? name = attempts.findSome? (·.offer? name)) ∧
    (empty.run attempts).size = empty.successes attempts ∧
    ∀ others, others.Perm attempts → (attempts.map Registration.fullName).Nodup →
      empty.run others = empty.run attempts := by
  refine ⟨isKeyed_empty.run attempts,
    fun a e => ⟨status_eq_error_iff, fun h => ⟨after_of_error h, ?_⟩⟩,
    fun name m h more => ?_, fun name => ?_, ?_, fun others h distinct => run_perm h distinct empty⟩
  · rw [run_append]
    exact after_of_error h
  · rw [run_append, find?_run, h, Option.some_or]
  · exact (find?_run empty attempts name).trans Option.none_or
  · exact (size_run empty attempts).trans (Nat.zero_add _)

end Registry

/-! ## Sheds and pots -/

namespace Garden

def shedDescriptor : Descriptor := ⟨"garden/Shed", shedText, ""⟩

/-- A shed without contents. -/
def emptyShed : Message := { shed with fields := [] }

def plainPot : Message := ⟨"garden", "Pot", "", [], [], .empty⟩

/-- A descriptor whose definition lacks a name. -/
def brokenPot : Descriptor := ⟨"garden/Pot", "uint8\n", ""⟩

/-- A definition without a name for its field, another one, a message that comes too late for its
name, and a message. -/
def deliveries : List Registration :=
  [.register brokenPot, .register shedDescriptor, .insert emptyShed, .insert plainPot]

/-- What is delivered, and that the shed stays as it is. -/
theorem written_once_deliveries :
    (Registry.empty.run deliveries).find? "garden/Shed" = some shed ∧
    (Registry.empty.run deliveries).size = 2 ∧
    (∀ more, (Registry.empty.run (deliveries ++ more)).find? "garden/Shed" = some shed) ∧
    ((Registry.empty.run deliveries).attempt (.insert emptyShed)).status
      = .error (.duplicate "garden/Shed") ∧
    Registry.empty.run (deliveries ++ [.insert emptyShed]) = Registry.empty.run deliveries ∧
    Registry.empty.run [.insert plainPot, .register shedDescriptor]
      = Registry.empty.run [.register shedDescriptor, .insert plainPot] := by
  obtain ⟨-, hfails, hstays, hfirst, hsize, -⟩ := Registry.written_once deliveries
  obtain ⟨-, -, -, -, -, hperm⟩ :=
    Registry.written_once [.register shedDescriptor, .insert plainPot]
  have hshed : (Registry.empty.run deliveries).find? "garden/Shed" = some shed :=
    (hfirst "garden/Shed").trans rfl
  have htaken := (hfails (.insert emptyShed) (.duplicate "garden/Shed")).1.2 (.taken rfl hshed)
  exact ⟨hshed, hsize.trans rfl, hstays _ _ hshed, htaken, ((hfails _ _).2 htaken).2,
    hperm _ (.swap ..) (by decide)⟩

end Garden

end Missive
