import Mathlib.Data.List.Nodup
import Mathlib.Data.List.Pairwise
import RemoteRun.Inbound.Decode
import RemoteRun.Proofs.Tables

/-!
# Gathering the fields of an event

What `Field.gather` makes of the members of a message.

**Spellings.** In the table of each kind no spelling stands twice, so that a key spells
at most one field and a field is known by its name (`EventKind.nodup_spellings`).

**Results.**
* `Field.get?_gather`: what was gathered holds the value of every member that spells a
  field.
* `Field.spelledOnce_of_gather`: it was gathered only if no field was spelled twice.
* `Field.gather_ne_duplicate`: members that spell no field twice are never refused as
  duplicates.
* `Field.exists_text_of_gather`: a text that must be there was spelled by a member.
* `Field.gather_erase`: a member that spells no field makes no difference.
* `Message.decode_eq_some_iff`: when a message is decoded to an event.
* `Field.takeAll_perm`: the order of the members makes no difference once all are taken.
-/

namespace RemoteRun

namespace Field

/-- All spellings of a field. -/
def spellings (f : Field) : List String :=
  f.name :: f.aliases

theorem accepts_iff_mem_spellings
    (f : Field)
    (key : String) :
    f.accepts key = true ↔ key ∈ f.spellings := by
  unfold accepts spellings
  rw [Bool.or_eq_true, beq_iff_eq, List.contains_iff_mem, List.mem_cons]
  exact or_congr_left eq_comm

@[simp] theorem accepts_name
    (f : Field) :
    f.accepts f.name = true := by
  simp [accepts]

/-- The field that a key spells. -/
def spelled? (fields : List Field) (key : String) : Option Field :=
  fields.find? (·.accepts key)

theorem mem_of_spelled?
    {fields : List Field}
    {key : String}
    {f : Field}
    (h : spelled? fields key = some f) :
    f ∈ fields :=
  List.mem_of_find?_eq_some h

theorem accepts_of_spelled?
    {fields : List Field}
    {key : String}
    {f : Field}
    (h : spelled? fields key = some f) :
    f.accepts key = true :=
  List.find?_some (p := fun g : Field => g.accepts key) h

/-- No two members with different keys spell the same field. -/
def SpelledOnce (fields : List Field) (members : Entries Json) : Prop :=
  ∀ f ∈ fields, ∀ e ∈ members, ∀ d ∈ members,
    f.accepts e.1 = true → f.accepts d.1 = true → e.1 = d.1

instance (fields : List Field) (members : Entries Json) :
    Decidable (SpelledOnce fields members) := by
  unfold SpelledOnce
  infer_instance

end Field

namespace EventKind

/-- No spelling stands twice in the table of a kind. -/
theorem nodup_spellings
    (kind : EventKind) :
    (kind.fields.flatMap Field.spellings).Nodup := by
  cases kind <;> decide

@[simp] theorem ofWireName?_wireName
    (kind : EventKind) :
    ofWireName? kind.wireName = some kind := by
  cases kind <;> rfl

/-- A key spells one field of a kind at most. -/
theorem field_eq_of_accepts
    {kind : EventKind}
    {f g : Field}
    {key : String}
    (hf : f ∈ kind.fields)
    (hg : g ∈ kind.fields)
    (hfkey : f.accepts key = true)
    (hgkey : g.accepts key = true) :
    f = g := by
  by_contra hne
  have hdisjoint := (List.nodup_flatMap.1 kind.nodup_spellings).2
  have : Std.Symm (Function.onFun List.Disjoint Field.spellings) :=
    ⟨fun _ _ h => List.disjoint_symm h⟩
  exact hdisjoint.forall hf hg hne
    ((Field.accepts_iff_mem_spellings f key).1 hfkey)
    ((Field.accepts_iff_mem_spellings g key).1 hgkey)

theorem field_eq_of_name_eq
    {kind : EventKind}
    {f g : Field}
    (hf : f ∈ kind.fields)
    (hg : g ∈ kind.fields)
    (hname : f.name = g.name) :
    f = g := by
  exact field_eq_of_accepts hf hg (hname ▸ f.accepts_name) g.accepts_name

theorem spelled?_of_accepts
    {kind : EventKind}
    {f : Field}
    {key : String}
    (hf : f ∈ kind.fields)
    (hkey : f.accepts key = true) :
    Field.spelled? kind.fields key = some f := by
  cases hfind : Field.spelled? kind.fields key with
  | none =>
      have hnone := List.find?_eq_none.1 hfind f hf
      exact absurd hkey hnone
  | some g =>
      have hg := Field.mem_of_spelled? hfind
      rw [field_eq_of_accepts hf hg hkey (Field.accepts_of_spelled? hfind)]

end EventKind

namespace Shape

/-- What is wrong with a value is never that it stands twice. -/
theorem fault?_ne_duplicate
    (s : Shape)
    (value : Json)
    (name : String) :
    s.fault? value ≠ some (.duplicate name) := by
  have hcount : ∀ expected, countFault? expected value ≠ some (.duplicate name) := by
    intro expected
    unfold countFault?
    split
    · simp
    · split <;> simp
    · simp
  cases s with
  | tokens =>
      exact hcount "u64"
  | total =>
      exact hcount "usize"
  | _ =>
      cases value <;> simp [fault?]

end Shape

namespace Field

variable {fields : List Field} {taken members gathered : Entries Json}

/-! ### One member -/

theorem take_eq
    (fields : List Field)
    (taken : Entries Json)
    (e : String × Json) :
    take fields taken e =
      match spelled? fields e.1 with
      | none => .ok taken
      | some f =>
          if (taken.get? f.name).isSome then .error (.duplicate f.name)
          else
            match f.shape.fault? e.2 with
            | some fault => .error fault
            | none => .ok (taken.insert f.name e.2) :=
  rfl

/-- A member that spells no field is passed over. -/
theorem take_of_unknown
    {e : String × Json}
    (hkey : spelled? fields e.1 = none) :
    take fields taken e = .ok taken := by
  rw [take_eq, hkey]

/-- A member that is taken is passed over, or it is the first one for its field and has a
value of its shape. -/
theorem take_eq_ok_iff
    {e : String × Json}
    {next : Entries Json} :
    take fields taken e = .ok next ↔
      (spelled? fields e.1 = none ∧ next = taken) ∨
        ∃ f, spelled? fields e.1 = some f ∧ taken.get? f.name = none ∧
          f.shape.fault? e.2 = none ∧ next = taken.insert f.name e.2 := by
  rw [take_eq]
  cases hf : spelled? fields e.1 with
  | none =>
      simp [eq_comm]
  | some f =>
      cases hfree : taken.get? f.name with
      | some value =>
          simp [hfree]
      | none =>
          cases hfault : f.shape.fault? e.2 <;> simp [hfree, hfault, eq_comm]

/-- A member is refused as a duplicate only when its field was taken before. -/
theorem taken_of_take_eq_duplicate
    {e : String × Json}
    {name : String}
    (h : take fields taken e = .error (.duplicate name)) :
    ∃ f, spelled? fields e.1 = some f ∧ taken.get? f.name ≠ none := by
  rw [take_eq] at h
  cases hf : spelled? fields e.1 with
  | none =>
      simp [hf] at h
  | some f =>
      refine ⟨f, rfl, ?_⟩
      intro hfree
      simp only [hf, hfree, Option.isSome_none, Bool.false_eq_true, if_false] at h
      cases hfault : f.shape.fault? e.2 with
      | none =>
          simp [hfault] at h
      | some fault =>
          simp only [hfault, Except.error.injEq] at h
          exact f.shape.fault?_ne_duplicate e.2 name (h ▸ hfault)

/-! ### All members -/

theorem takeAll_cons_eq_ok_iff
    {e : String × Json} :
    takeAll fields taken (e :: members) = .ok gathered ↔
      ∃ next, take fields taken e = .ok next ∧ takeAll fields next members = .ok gathered := by
  rw [takeAll]
  cases take fields taken e <;> simp

/-- What was taken stays, and every member that spells a field is the only one for it. -/
theorem get?_takeAll
    (h : takeAll fields taken members = .ok gathered) :
    (∀ name value, taken.get? name = some value → gathered.get? name = some value) ∧
      ∀ e ∈ members, ∀ f, spelled? fields e.1 = some f →
        taken.get? f.name = none ∧ gathered.get? f.name = some e.2 := by
  induction members generalizing taken with
  | nil =>
      simp only [takeAll, Except.ok.injEq] at h
      subst h
      exact ⟨fun _ _ hvalue => hvalue, by simp⟩
  | cons e members ih =>
      obtain ⟨next, hnext, h⟩ := takeAll_cons_eq_ok_iff.1 h
      obtain ⟨hkept, hfound⟩ := ih h
      rcases take_eq_ok_iff.1 hnext with ⟨hunknown, rfl⟩ | ⟨f, hf, hfree, -, rfl⟩
      · refine ⟨hkept, ?_⟩
        intro d hd g hg
        rcases List.mem_cons.1 hd with rfl | hd
        · rw [hunknown] at hg
          simp at hg
        · exact hfound d hd g hg
      · have hnew : gathered.get? f.name = some e.2 :=
          hkept f.name e.2 (by simp [Entries.get?_insert])
        constructor
        · intro name value hvalue
          have hne : f.name ≠ name := by
            rintro rfl
            rw [hfree] at hvalue
            simp at hvalue
          apply hkept
          simpa [Entries.get?_insert, hne] using hvalue
        · intro d hd g hg
          rcases List.mem_cons.1 hd with rfl | hd
          · rw [hf, Option.some.injEq] at hg
            subst hg
            exact ⟨hfree, hnew⟩
          · obtain ⟨hother, hvalue⟩ := hfound d hd g hg
            have hne : f.name ≠ g.name := by
              intro hname
              simp [Entries.get?_insert, hname] at hother
            exact ⟨by simpa [Entries.get?_insert, hne] using hother, hvalue⟩

/-- No two members that were taken are for the same field. -/
theorem pairwise_of_takeAll
    (h : takeAll fields taken members = .ok gathered) :
    members.Pairwise fun e d =>
      ∀ f, spelled? fields e.1 = some f → spelled? fields d.1 ≠ some f := by
  induction members generalizing taken with
  | nil =>
      exact List.Pairwise.nil
  | cons e members ih =>
      obtain ⟨next, hnext, h⟩ := takeAll_cons_eq_ok_iff.1 h
      refine List.pairwise_cons.2 ⟨?_, ih h⟩
      intro d hd f hf hsame
      have hfree := ((get?_takeAll h).2 d hd f hsame).1
      rcases take_eq_ok_iff.1 hnext with ⟨hunknown, _⟩ | ⟨g, hg, _, -, rfl⟩
      · rw [hunknown] at hf
        simp at hf
      · rw [hf, Option.some.injEq] at hg
        subst hg
        simp [Entries.get?_insert] at hfree

theorem takeAll_ne_duplicate
    (hnames : ∀ f ∈ fields, ∀ g ∈ fields, f.name = g.name → f = g)
    (hmembers :
      members.Pairwise fun e d =>
        ∀ f, spelled? fields e.1 = some f → spelled? fields d.1 ≠ some f)
    (htaken :
      ∀ e ∈ members, ∀ f, spelled? fields e.1 = some f → taken.get? f.name = none)
    (name : String) :
    takeAll fields taken members ≠ .error (.duplicate name) := by
  induction members generalizing taken with
  | nil =>
      simp [takeAll]
  | cons e members ih =>
      obtain ⟨hfirst, hrest⟩ := List.pairwise_cons.1 hmembers
      unfold takeAll
      cases hnext : take fields taken e with
      | error fault =>
          rintro hfault
          simp only [Except.error.injEq] at hfault
          subst hfault
          obtain ⟨f, hf, htwice⟩ := taken_of_take_eq_duplicate hnext
          exact htwice (htaken e List.mem_cons_self f hf)
      | ok next =>
          apply ih hrest
          intro d hd g hg
          have hother := htaken d (List.mem_cons_of_mem e hd) g hg
          rcases take_eq_ok_iff.1 hnext with ⟨_, rfl⟩ | ⟨f, hf, _, -, rfl⟩
          · exact hother
          · -- A field of the same name would be the same field, spelled twice.
            have hne : f.name ≠ g.name := by
              intro hname
              have hsame :=
                hnames f (mem_of_spelled? hf) g (mem_of_spelled? hg) hname
              subst hsame
              exact hfirst d hd f hf hg
            simpa [Entries.get?_insert, hne] using hother

/-- Leaving out a key that spells no field changes nothing. -/
theorem takeAll_erase
    {key : String}
    (hkey : spelled? fields key = none)
    (taken members : Entries Json) :
    takeAll fields taken (members.erase key) = takeAll fields taken members := by
  induction members generalizing taken with
  | nil =>
      rfl
  | cons e members ih =>
      obtain ⟨k, value⟩ := e
      by_cases hk : k = key
      · subst hk
        have hpassed : take fields taken (k, value) = .ok taken := take_of_unknown hkey
        simp [Entries.erase, takeAll, hpassed]
      · simp [Entries.erase, hk, takeAll, ih]

/-- What was taken in the end was taken before or is the value of a member. -/
theorem mem_of_get?_takeAll
    (h : takeAll fields taken members = .ok gathered)
    {name : String}
    {value : Json}
    (hvalue : gathered.get? name = some value) :
    taken.get? name = some value ∨
      ∃ e ∈ members, ∃ f, spelled? fields e.1 = some f ∧ f.name = name ∧ e.2 = value := by
  induction members generalizing taken with
  | nil =>
      simp only [takeAll, Except.ok.injEq] at h
      subst h
      exact Or.inl hvalue
  | cons e members ih =>
      obtain ⟨next, hnext, h⟩ := takeAll_cons_eq_ok_iff.1 h
      rcases ih h with hearlier | ⟨d, hd, f, hf, hname, hsame⟩
      · rcases take_eq_ok_iff.1 hnext with ⟨_, rfl⟩ | ⟨f, hf, _, -, rfl⟩
        · exact Or.inl hearlier
        · by_cases hname : f.name = name
          · subst hname
            rw [Entries.get?_insert, if_pos rfl, Option.some.injEq] at hearlier
            exact Or.inr ⟨e, List.mem_cons_self, f, hf, rfl, hearlier⟩
          · rw [Entries.get?_insert, if_neg hname] at hearlier
            exact Or.inl hearlier
      · exact Or.inr ⟨d, List.mem_cons_of_mem e hd, f, hf, hname, hsame⟩

/-- A member that was taken has a value of the shape of its field. -/
theorem fault?_of_takeAll
    (h : takeAll fields taken members = .ok gathered) :
    ∀ e ∈ members, ∀ f, spelled? fields e.1 = some f → f.shape.fault? e.2 = none := by
  induction members generalizing taken with
  | nil =>
      simp
  | cons e members ih =>
      obtain ⟨next, hnext, h⟩ := takeAll_cons_eq_ok_iff.1 h
      intro d hd f hf
      rcases List.mem_cons.1 hd with rfl | hlater
      · rcases take_eq_ok_iff.1 hnext with ⟨hunknown, _⟩ | ⟨g, hg, _, hfault, _⟩
        · rw [hunknown] at hf
          cases hf
        · rw [hg, Option.some.injEq] at hf
          exact hf ▸ hfault
      · exact ih h d hlater f hf

/-! ### The order of members -/

theorem ascending_take
    {e : String × Json}
    {next : Entries Json}
    (htaken : taken.Ascending)
    (h : take fields taken e = .ok next) :
    next.Ascending := by
  rcases take_eq_ok_iff.1 h with ⟨_, rfl⟩ | ⟨f, _, _, _, rfl⟩
  · exact htaken
  · exact htaken.insert f.name e.2

theorem ascending_takeAll
    (htaken : taken.Ascending)
    (h : takeAll fields taken members = .ok gathered) :
    gathered.Ascending := by
  induction members generalizing taken with
  | nil =>
      simp only [takeAll, Except.ok.injEq] at h
      exact h ▸ htaken
  | cons e members ih =>
      obtain ⟨next, hnext, h⟩ := takeAll_cons_eq_ok_iff.1 h
      exact ih (ascending_take htaken hnext) h

/-- Two members that are taken one after the other may change places. -/
theorem take_comm
    {e d : String × Json}
    {next last : Entries Json}
    (htaken : taken.Ascending)
    (hfirst : take fields taken e = .ok next)
    (hsecond : take fields next d = .ok last) :
    ∃ other, take fields taken d = .ok other ∧ take fields other e = .ok last := by
  simp only [take_eq_ok_iff] at hfirst hsecond ⊢
  rcases hfirst with ⟨he, rfl⟩ | ⟨f, hf, hfree, hfault, rfl⟩
  · exact ⟨last, hsecond, Or.inl ⟨he, rfl⟩⟩
  · rcases hsecond with ⟨hd, rfl⟩ | ⟨g, hg, hfree', hfault', rfl⟩
    · exact ⟨taken, Or.inl ⟨hd, rfl⟩, Or.inr ⟨f, hf, hfree, hfault, rfl⟩⟩
    · have hne : f.name ≠ g.name := by
        intro hname
        simp [Entries.get?_insert, hname] at hfree'
      rw [Entries.get?_insert, if_neg hne] at hfree'
      refine ⟨taken.insert g.name d.2, Or.inr ⟨g, hg, hfree', hfault', rfl⟩,
        Or.inr ⟨f, hf, ?_, hfault, ?_⟩⟩
      · rw [Entries.get?_insert, if_neg hne.symm, hfree]
      · exact Entries.insert_comm htaken hne e.2 d.2

/-- Members that are all taken may come in any order. -/
theorem takeAll_perm
    {others : Entries Json}
    (hperm : members.Perm others)
    (htaken : taken.Ascending)
    (h : takeAll fields taken members = .ok gathered) :
    takeAll fields taken others = .ok gathered := by
  induction hperm generalizing taken with
  | nil =>
      exact h
  | cons e _ ih =>
      obtain ⟨next, hnext, h⟩ := takeAll_cons_eq_ok_iff.1 h
      exact takeAll_cons_eq_ok_iff.2 ⟨next, hnext, ih (ascending_take htaken hnext) h⟩
  | swap d e rest =>
      obtain ⟨next, hfirst, h⟩ := takeAll_cons_eq_ok_iff.1 h
      obtain ⟨last, hsecond, h⟩ := takeAll_cons_eq_ok_iff.1 h
      obtain ⟨other, hfirst', hsecond'⟩ := take_comm htaken hfirst hsecond
      exact takeAll_cons_eq_ok_iff.2
        ⟨other, hfirst', takeAll_cons_eq_ok_iff.2 ⟨last, hsecond', h⟩⟩
  | trans _ _ ih ih' =>
      exact ih' htaken (ih htaken h)

/-- Members with one more at their end. -/
theorem takeAll_concat_eq_ok_iff
    {e : String × Json} :
    takeAll fields taken (members ++ [e]) = .ok gathered ↔
      ∃ next, takeAll fields taken members = .ok next ∧ take fields next e = .ok gathered := by
  induction members generalizing taken with
  | nil =>
      cases htake : take fields taken e <;> simp [takeAll, htake]
  | cons d members ih =>
      simp only [List.cons_append, takeAll_cons_eq_ok_iff, ih]
      constructor
      · rintro ⟨mid, hmid, next, hnext, h⟩
        exact ⟨next, ⟨mid, hmid, hnext⟩, h⟩
      · rintro ⟨next, ⟨mid, hmid, hnext⟩, h⟩
        exact ⟨mid, hmid, next, hnext, h⟩

/-! ### The fields of a kind -/

variable {kind : EventKind}

theorem gather_eq_ok_iff :
    gather fields members = .ok gathered ↔
      takeAll fields [] members = .ok gathered ∧ missing? fields gathered = none := by
  unfold gather
  cases takeAll fields [] members with
  | error fault =>
      simp
  | ok taken =>
      simp only [Except.ok.injEq]
      constructor
      · intro h
        cases hmissing : missing? fields taken with
        | none =>
            simp only [hmissing, Except.ok.injEq] at h
            exact ⟨h, h ▸ hmissing⟩
        | some name =>
            simp [hmissing] at h
      · rintro ⟨rfl, hmissing⟩
        simp [hmissing]

theorem takeAll_of_gather
    (h : gather fields members = .ok gathered) :
    takeAll fields [] members = .ok gathered :=
  (gather_eq_ok_iff.1 h).1

theorem ascending_gather
    (h : gather fields members = .ok gathered) :
    gathered.Ascending :=
  ascending_takeAll List.Pairwise.nil (takeAll_of_gather h)

/-- What was gathered holds the value of every member that spells a field. -/
theorem get?_gather
    (h : gather kind.fields members = .ok gathered)
    {f : Field}
    (hf : f ∈ kind.fields)
    {e : String × Json}
    (he : e ∈ members)
    (hspells : f.accepts e.1 = true) :
    gathered.get? f.name = some e.2 :=
  ((get?_takeAll (takeAll_of_gather h)).2 e he f (EventKind.spelled?_of_accepts hf hspells)).2

/-- Every value that was gathered is that of a member that spells its field. -/
theorem mem_of_get?_gather
    (h : gather fields members = .ok gathered)
    {name : String}
    {value : Json}
    (hvalue : gathered.get? name = some value) :
    ∃ e ∈ members, ∃ f ∈ fields, f.name = name ∧ f.accepts e.1 = true ∧ e.2 = value := by
  rcases mem_of_get?_takeAll (takeAll_of_gather h) hvalue with hempty | ⟨e, he, f, hf, hname, hsame⟩
  · simp at hempty
  · exact ⟨e, he, f, mem_of_spelled? hf, hname, accepts_of_spelled? hf, hsame⟩

/-- A text that must be there is the value of a member that spells it. -/
theorem exists_text_of_gather
    (h : gather kind.fields members = .ok gathered)
    {f : Field}
    (hf : f ∈ kind.fields)
    (hshape : f.shape = .text)
    (hrequired : f.required = true) :
    ∃ e ∈ members, f.accepts e.1 = true ∧ ∃ text, e.2 = .str text := by
  obtain ⟨htaken, hmissing⟩ := gather_eq_ok_iff.1 h
  have hthere : gathered.get? f.name ≠ none := by
    have hnone := List.find?_eq_none.1 (Option.map_eq_none_iff.1 hmissing) f hf
    simpa [hrequired] using hnone
  obtain ⟨value, hvalue⟩ := Option.ne_none_iff_exists'.1 hthere
  obtain ⟨e, he, g, hg, hname, hspells, _⟩ := mem_of_get?_gather h hvalue
  obtain rfl : g = f := EventKind.field_eq_of_name_eq hg hf hname
  refine ⟨e, he, hspells, ?_⟩
  have hfault := fault?_of_takeAll htaken e he g (EventKind.spelled?_of_accepts hg hspells)
  rw [hshape] at hfault
  cases hfound : e.2 with
  | str text =>
      exact ⟨text, rfl⟩
  | _ =>
      rw [hfound] at hfault
      cases hfault

/-- Members are gathered only if no field is spelled twice. -/
theorem spelledOnce_of_gather
    (h : gather kind.fields members = .ok gathered) :
    SpelledOnce kind.fields members := by
  intro f hf e he d hd hespells hdspells
  have hpair := pairwise_of_takeAll (takeAll_of_gather h)
  by_contra hne
  have :
      Std.Symm fun e d : String × Json =>
        ∀ f, spelled? kind.fields e.1 = some f → spelled? kind.fields d.1 ≠ some f :=
    ⟨fun _ _ hapart f hd he => hapart f he hd⟩
  have hapart := hpair.forall he hd fun heq => hne (congrArg Prod.fst heq)
  exact hapart f (EventKind.spelled?_of_accepts hf hespells)
    (EventKind.spelled?_of_accepts hf hdspells)

/-- Members that spell no field twice are not refused as duplicates. -/
theorem gather_ne_duplicate
    (hmembers : members.Ascending)
    (honce : SpelledOnce kind.fields members)
    (name : String) :
    gather kind.fields members ≠ .error (.duplicate name) := by
  have hpair :
      members.Pairwise fun e d =>
        ∀ f, spelled? kind.fields e.1 = some f →
          spelled? kind.fields d.1 ≠ some f := by
    apply List.Pairwise.imp_of_mem _ hmembers
    intro e d he hd hlt f hf hg
    have hsame :=
      honce f (mem_of_spelled? hf) e he d hd (accepts_of_spelled? hf)
        (accepts_of_spelled? hg)
    exact Entries.ne_of_lt hlt hsame
  have htake : takeAll kind.fields [] members ≠ .error (.duplicate name) :=
    takeAll_ne_duplicate (fun f hf g hg => EventKind.field_eq_of_name_eq hf hg) hpair
      (by simp) name
  unfold gather
  cases ht : takeAll kind.fields [] members with
  | error fault =>
      rw [ht] at htake
      simpa using htake
  | ok taken =>
      simp only
      cases missing? kind.fields taken <;> simp

theorem gather_erase
    {key : String}
    (hkey : ∀ f ∈ fields, f.accepts key = false)
    (members : Entries Json) :
    gather fields (members.erase key) = gather fields members := by
  have hnone : spelled? fields key = none := by
    apply List.find?_eq_none.2
    intro f hf
    simp [hkey f hf]
  simp [gather, takeAll_erase hnone]

end Field

/-- A message is decoded to an event exactly when its kind is one of events and its members are
the fields of this kind. -/
theorem Message.decode_eq_some_iff
    {m : Message}
    {event : Event} :
    m.decode = .ok (some event) ↔
      ∃ kind gathered, EventKind.ofWireName? m.kind = some kind ∧
        Field.gather kind.fields m.members = .ok gathered ∧ event = kind.assemble gathered := by
  unfold decode
  cases EventKind.ofWireName? m.kind with
  | none =>
      simp
  | some kind =>
      cases hgather : Field.gather kind.fields m.members <;> simp [hgather, eq_comm]

end RemoteRun
