import LoginThrottle.Host.Registry

/-!
The registered names as a set. Registering a free name adds it and unregistering takes it out, and
where every one of some names was newly registered, taking them out again gives back the very list
that was there before. So a group of names that cannot be registered as a whole leaves the names
as they were.
-/

set_option autoImplicit false
set_option relaxedAutoImplicit false

namespace LoginThrottle.Registry

/-- The name can be registered. -/
structure Free (registry : Registry) (name : String) : Prop where
  unregistered : name ∉ registry.registered
  allowed : name ∉ registry.refused

theorem mem_insertName {name other : String} {names : List String} :
    other ∈ insertName name names ↔ other = name ∨ other ∈ names := by
  induction names with
  | nil => simp [insertName]
  | cons first rest ih =>
    rw [insertName]
    split
    · next heq =>
      rw [heq, List.mem_cons]
      exact ⟨Or.inr, fun h ↦ h.elim Or.inl id⟩
    · split
      · exact List.mem_cons
      · rw [List.mem_cons, ih, List.mem_cons]
        exact or_left_comm

/-- Where the name does not matter, neither does its insertion. -/
theorem filter_insertName {name : String} {keeps : String → Bool} (h : keeps name = false)
    (names : List String) : (insertName name names).filter keeps = names.filter keeps := by
  induction names with
  | nil => simp [insertName, h]
  | cons first rest ih =>
    rw [insertName]
    split
    · rfl
    · split
      · rw [List.filter_cons, h]
        rfl
      · rw [List.filter_cons, ih, List.filter_cons]

/-! ### New names -/

/-- The names that `next` has registered are those of the registry and some new ones. -/
structure Extends (registry next : Registry) (names : List String) : Prop where
  mem_iff : ∀ name, name ∈ next.registered ↔ name ∈ registry.registered ∨ name ∈ names
  restored : next.registered.filter (· ∉ names) = registry.registered
  refused : next.refused = registry.refused

namespace Extends

variable {registry reached next : Registry} {names more : List String}

theorem of_eq (hregistered : next.registered = registry.registered)
    (hrefused : next.refused = registry.refused) : Extends registry next [] where
  mem_iff name := by simp [hregistered]
  restored := by simp [hregistered]
  refused := hrefused

theorem trans (h : Extends registry reached names) (hmore : Extends reached next more) :
    Extends registry next (names ++ more) where
  mem_iff name := by rw [hmore.mem_iff, h.mem_iff, List.mem_append, or_assoc]
  restored := by
    rw [← h.restored, ← hmore.restored, List.filter_filter]
    exact List.filter_congr fun name _ ↦ by simp [not_or]
  refused := hmore.refused.trans h.refused

theorem free_iff (h : Extends registry next names) {name : String} :
    next.Free name ↔ registry.Free name ∧ name ∉ names := by
  have hregistered := h.mem_iff name
  constructor
  · rintro ⟨hunregistered, hallowed⟩
    exact ⟨⟨fun hmem ↦ hunregistered (hregistered.mpr (Or.inl hmem)), h.refused ▸ hallowed⟩,
      fun hmem ↦ hunregistered (hregistered.mpr (Or.inr hmem))⟩
  · rintro ⟨⟨hunregistered, hallowed⟩, hname⟩
    exact ⟨fun hmem ↦ (hregistered.mp hmem).elim hunregistered hname, h.refused.symm ▸ hallowed⟩

/-- A name that is not among the new ones fails as it would have failed before. -/
theorem registerName_eq_error_iff (h : Extends registry next names) {name : String}
    (hname : name ∉ names) {thing : Registration} {fault : Fault} :
    next.registerName thing name = .error fault ↔
      registry.registerName thing name = .error fault := by
  have hholds : next.holds name = registry.holds name := by
    rw [Bool.eq_iff_iff, holds, holds, List.contains_iff_mem, List.contains_iff_mem, h.mem_iff,
      or_iff_left hname]
  rw [registerName, registerName, h.refused, hholds]
  cases registry.refused.contains name <;> cases registry.holds name <;> simp

end Extends

/-! ### Registering -/

section Register

variable {registry next : Registry} {thing : Registration}

/-- Only a free name can be registered, and it is then the one new name. -/
theorem of_registerName_eq_ok {name : String} (h : registry.registerName thing name = .ok next) :
    registry.Free name ∧ registry.Extends next [name] := by
  rw [registerName] at h
  split at h
  · exact absurd h (by simp)
  · next hallowed =>
    split at h
    · exact absurd h (by simp)
    · next hunregistered =>
      rw [List.contains_iff_mem] at hallowed
      rw [holds, List.contains_iff_mem] at hunregistered
      obtain rfl := Except.ok.inj h
      refine ⟨⟨hunregistered, hallowed⟩, fun other ↦ ?_, ?_, rfl⟩
      · rw [mem_insertName, List.mem_singleton, or_comm]
      · rw [filter_insertName (by simp)]
        exact List.filter_eq_self.mpr fun other hother ↦ by
          have hne : other ≠ name := fun heq ↦ hunregistered (heq ▸ hother)
          simpa using hne

theorem registerName_eq_ok_of_free {name : String} (h : registry.Free name)
    (thing : Registration) : ∃ next, registry.registerName thing name = .ok next := by
  rw [registerName, if_neg (mt List.contains_iff_mem.mp h.allowed), holds,
    if_neg (mt List.contains_iff_mem.mp h.unregistered)]
  exact ⟨_, rfl⟩

theorem registerNames_cons (name : String) (rest : List String) :
    registry.registerNames thing (name :: rest) =
      (registry.registerName thing name).bind (·.registerNames thing rest) :=
  List.foldlM_cons ..

theorem exists_of_registerNames_cons {name : String} {rest : List String}
    (h : registry.registerNames thing (name :: rest) = .ok next) :
    ∃ reached, registry.registerName thing name = .ok reached
      ∧ reached.registerNames thing rest = .ok next := by
  rw [registerNames_cons] at h
  cases hfirst : registry.registerName thing name with
  | error fault =>
    rw [hfirst] at h
    exact absurd h (by simp [Except.bind])
  | ok reached =>
    rw [hfirst] at h
    exact ⟨reached, rfl, h⟩

/-- All of some names can only be registered if they are free and different, and they are then the
new names. -/
theorem of_registerNames_eq_ok {names : List String}
    (h : registry.registerNames thing names = .ok next) :
    (∀ name ∈ names, registry.Free name) ∧ names.Nodup ∧ registry.Extends next names := by
  induction names generalizing registry with
  | nil =>
    rw [← Except.ok.inj h]
    exact ⟨fun _ hname ↦ absurd hname List.not_mem_nil, List.nodup_nil, .of_eq rfl rfl⟩
  | cons name rest ih =>
    obtain ⟨reached, hfirst, hlater⟩ := exists_of_registerNames_cons h
    obtain ⟨hfree, hextends⟩ := of_registerName_eq_ok hfirst
    obtain ⟨hrest, hnodup, hmore⟩ := ih hlater
    refine ⟨fun other hother ↦ ?_, List.nodup_cons.mpr ⟨fun hmem ↦ ?_, hnodup⟩,
      hextends.trans hmore⟩
    · rcases List.mem_cons.mp hother with rfl | hmem
      · exact hfree
      · exact (hextends.free_iff.mp (hrest other hmem)).1
    · exact (hextends.free_iff.mp (hrest name hmem)).2 (List.mem_singleton_self name)

/-- Without a fault the names are registered one by one as they are all at once. -/
theorem registerEach_of_ok {names : List String}
    (h : registry.registerNames thing names = .ok next) :
    registry.registerEach thing names = ((names, .ok ()), next) := by
  induction names generalizing registry with
  | nil =>
    rw [← Except.ok.inj h]
    rfl
  | cons name rest ih =>
    obtain ⟨reached, hfirst, hlater⟩ := exists_of_registerNames_cons h
    rw [registerEach, hfirst]
    simp only [ih hlater]

/-- With one, those before it are registered. -/
theorem registerEach_of_error {names : List String} {fault : Fault}
    (h : registry.registerNames thing names = .error fault) :
    ∃ done name rest reached, names = done ++ name :: rest
      ∧ registry.registerNames thing done = .ok reached
      ∧ reached.registerName thing name = .error fault
      ∧ registry.registerEach thing names = ((done, .error fault), reached) := by
  induction names generalizing registry with
  | nil => exact absurd h (by simp [registerNames, pure, Except.pure])
  | cons name rest ih =>
    rw [registerNames_cons] at h
    rw [registerEach]
    cases hfirst : registry.registerName thing name with
    | error first =>
      rw [hfirst] at h
      obtain rfl := Except.error.inj h
      exact ⟨[], name, rest, registry, rfl, rfl, hfirst, rfl⟩
    | ok reached =>
      rw [hfirst] at h
      obtain ⟨done, failed, left, last, rfl, hdone, hfailed, heach⟩ := ih h
      refine ⟨name :: done, failed, left, last, rfl, ?_, hfailed, ?_⟩
      · rw [registerNames_cons, hfirst]
        exact hdone
      · simp only [heach]

end Register

/-! ### Unregistering -/

theorem registered_unregisterNames (registry : Registry) (thing : Registration)
    (names : List String) :
    (registry.unregisterNames thing names).2.registered =
      registry.registered.filter (· ∉ names) := by
  induction names generalizing registry with
  | nil => exact (List.filter_eq_self.mpr fun _ _ ↦ by simp).symm
  | cons name rest ih =>
    rw [unregisterNames, unregisterName]
    by_cases hholds : registry.holds name = true
    · rw [if_pos hholds]
      simp only [ih, List.filter_filter]
      exact List.filter_congr fun other _ ↦ by simp [Bool.and_comm]
    · rw [if_neg hholds]
      simp only [ih]
      refine List.filter_congr fun other hother ↦ ?_
      have hne : other ≠ name := fun heq ↦
        hholds (List.contains_iff_mem.mpr (heq ▸ hother))
      simp [hne]

theorem refused_unregisterNames (registry : Registry) (thing : Registration)
    (names : List String) :
    (registry.unregisterNames thing names).2.refused = registry.refused := by
  induction names generalizing registry with
  | nil => rfl
  | cons name rest ih =>
    rw [unregisterNames, unregisterName]
    by_cases hholds : registry.holds name = true
    · rw [if_pos hholds]
      exact ih _
    · rw [if_neg hholds]
      exact ih registry

/-! ### Groups -/

section Group

variable {registry next : Registry} {thing : Registration} {names : List String}

theorem registerGroup_of_ok (h : registry.registerNames thing names = .ok next) :
    registry.registerGroup thing names = (.ok (), next) := by
  rw [registerGroup, registerEach_of_ok h]

/-- A group that fails leaves the names as they were, and fails as its first name does that is not
free. -/
theorem registerGroup_of_error {fault : Fault}
    (h : registry.registerNames thing names = .error fault) :
    ∃ last, registry.registerGroup thing names = (.error fault, last)
      ∧ registry.Extends last [] := by
  obtain ⟨done, name, rest, reached, rfl, hdone, -, heach⟩ := registerEach_of_error h
  obtain ⟨-, -, hextends⟩ := of_registerNames_eq_ok hdone
  refine ⟨_, by rw [registerGroup, heach], .of_eq ?_ ?_⟩
  · rw [registered_unregisterNames, hextends.restored]
  · rw [refused_unregisterNames, hextends.refused]

end Group

/-! ### The first fault -/

/-- Registering these names would fail at the first of them that is not free, with this fault. -/
def FailsAtFirst (registry : Registry) (announced : List (Registration × String))
    (fault : Fault) : Prop :=
  ∃ before thing name after, announced = before ++ (thing, name) :: after
    ∧ (∀ other ∈ before, registry.Free other.2) ∧ registry.registerName thing name = .error fault

namespace FailsAtFirst

variable {registry next : Registry} {announced : List (Registration × String)} {fault : Fault}

theorem exists_not_free (h : registry.FailsAtFirst announced fault) :
    ∃ entry ∈ announced, ¬ registry.Free entry.2 := by
  obtain ⟨before, thing, name, after, rfl, -, hfailed⟩ := h
  refine ⟨(thing, name), by simp, fun hfree ↦ ?_⟩
  obtain ⟨next, hnext⟩ := registerName_eq_ok_of_free hfree thing
  exact absurd (hnext.symm.trans hfailed) (by simp)

theorem append (h : registry.FailsAtFirst announced fault)
    (more : List (Registration × String)) : registry.FailsAtFirst (announced ++ more) fault := by
  obtain ⟨before, thing, name, after, rfl, hbefore, hfailed⟩ := h
  exact ⟨before, thing, name, after ++ more, by simp, hbefore, hfailed⟩

theorem of_free_append {free : List (Registration × String)}
    (hfree : ∀ entry ∈ free, registry.Free entry.2) (h : registry.FailsAtFirst announced fault) :
    registry.FailsAtFirst (free ++ announced) fault := by
  obtain ⟨before, thing, name, after, rfl, hbefore, hfailed⟩ := h
  refine ⟨free ++ before, thing, name, after, by simp, fun other hother ↦ ?_, hfailed⟩
  exact (List.mem_append.mp hother).elim (hfree other) (hbefore other)

/-- Other names that have been registered meanwhile make no difference. -/
theorem of_extends {names : List String} (hextends : registry.Extends next names)
    (hother : ∀ entry ∈ announced, entry.2 ∉ names) (h : next.FailsAtFirst announced fault) :
    registry.FailsAtFirst announced fault := by
  obtain ⟨before, thing, name, after, rfl, hbefore, hfailed⟩ := h
  exact ⟨before, thing, name, after, rfl,
    fun other hmem ↦ (hextends.free_iff.mp (hbefore other hmem)).1,
    (hextends.registerName_eq_error_iff (hother (thing, name) (by simp))).mp hfailed⟩

theorem of_registerNames {thing : Registration} {names : List String} (hnodup : names.Nodup)
    (h : registry.registerNames thing names = .error fault) :
    registry.FailsAtFirst (names.map (thing, ·)) fault := by
  obtain ⟨done, name, rest, reached, rfl, hdone, hfailed, -⟩ := registerEach_of_error h
  obtain ⟨hfree, -, hextends⟩ := of_registerNames_eq_ok hdone
  have hname : name ∉ done := fun hmem ↦
    (List.nodup_append.mp hnodup).2.2 name hmem name List.mem_cons_self rfl
  refine ⟨done.map (thing, ·), thing, name, rest.map (thing, ·), by simp, fun other hother ↦ ?_,
    (hextends.registerName_eq_error_iff hname).mp hfailed⟩
  obtain ⟨earlier, hearlier, rfl⟩ := List.mem_map.mp hother
  exact hfree earlier hearlier

end FailsAtFirst

/-! ### Calls of the host -/

section Calls

variable {registry next : Registry}

theorem registerTable_eq (registry : Registry) (name : String) (readOnly : Bool) :
    registry.registerTable name readOnly =
      (registry.registerNames .table [name]).map fun next ↦
        { next with journal := next.journal ++ [.tableRegistered name readOnly] } := by
  rw [registerTable, registerNames_cons]
  cases registry.registerName .table name <;> rfl

/-- A thing is registered if all its names are. -/
theorem answer_register_of_ok {thing : Registration}
    (h : registry.registerNames thing thing.names = .ok next) :
    ∃ last, host.answer (.register thing) registry = (.ok (), last)
      ∧ registry.Extends last thing.names := by
  obtain ⟨-, -, hextends⟩ := of_registerNames_eq_ok h
  cases thing with
  | table =>
    have hanswer : host.answer (.register .table) registry =
        registry.attempt (registry.registerTable TableShare.failures.name
          TableShare.failures.readOnly) := rfl
    rw [hanswer, registerTable_eq]
    refine ⟨_, congrArg (fun names ↦ registry.attempt (Except.map _ names)) h, ?_⟩
    exact ⟨hextends.mem_iff, hextends.restored, hextends.refused⟩
  | settings | statusVariable => exact ⟨next, registerGroup_of_ok h, hextends⟩

theorem answer_register_of_error {thing : Registration} {fault : Fault}
    (h : registry.registerNames thing thing.names = .error fault) :
    ∃ last, host.answer (.register thing) registry = (.error fault, last)
      ∧ registry.Extends last [] := by
  cases thing with
  | table =>
    have hanswer : host.answer (.register .table) registry =
        registry.attempt (registry.registerTable TableShare.failures.name
          TableShare.failures.readOnly) := rfl
    rw [hanswer, registerTable_eq]
    exact ⟨registry, congrArg (fun names ↦ registry.attempt (Except.map _ names)) h, .of_eq rfl rfl⟩
  | settings | statusVariable => exact registerGroup_of_error h

/-- The names of several things, each with the thing that it is for, in order. -/
def announced (things : List Registration) : List (Registration × String) :=
  things.flatMap fun thing ↦ thing.names.map (thing, ·)

theorem map_snd_announced (things : List Registration) :
    (announced things).map Prod.snd = things.flatMap Registration.names := by
  simp [announced, List.map_flatMap, Function.comp_def]

/-- Several things are registered together or fail at the first name that is not free. -/
theorem registerAll_cases {things : List Registration}
    (hnodup : (things.flatMap Registration.names).Nodup) (registry : Registry) :
    (∃ next, host.registerAll things registry = ((things, .ok ()), next)
        ∧ registry.Extends next (things.flatMap Registration.names)
        ∧ ∀ entry ∈ announced things, registry.Free entry.2)
      ∨ ∃ done fault next, host.registerAll things registry = ((done, .error fault), next)
        ∧ registry.Extends next (done.flatMap Registration.names)
        ∧ registry.FailsAtFirst (announced things) fault := by
  induction things generalizing registry with
  | nil => exact Or.inl ⟨registry, rfl, .of_eq rfl rfl, by simp [announced]⟩
  | cons thing rest ih =>
    obtain ⟨hthing, hrest, hdisjoint⟩ := List.nodup_append.mp hnodup
    rw [Host.registerAll]
    cases hnames : registry.registerNames thing thing.names with
    | error fault =>
      obtain ⟨last, hanswer, hextends⟩ := answer_register_of_error hnames
      exact Or.inr ⟨[], fault, last, by rw [hanswer], hextends,
        (FailsAtFirst.of_registerNames hthing hnames).append _⟩
    | ok reached =>
      obtain ⟨next, hanswer, hextends⟩ := answer_register_of_ok hnames
      have hfree : ∀ entry ∈ thing.names.map (thing, ·), registry.Free entry.2 := by
        intro entry hentry
        obtain ⟨name, hname, rfl⟩ := List.mem_map.mp hentry
        exact (of_registerNames_eq_ok hnames).1 name hname
      rw [hanswer]
      rcases ih hrest next with
        ⟨last, hlast, hmore, hfrees⟩ | ⟨done, fault, last, hlast, hmore, hfails⟩
      · refine Or.inl ⟨last, by simp only [hlast], hextends.trans hmore, fun entry hentry ↦ ?_⟩
        rcases List.mem_append.mp hentry with hown | hlater
        · exact hfree entry hown
        · exact (hextends.free_iff.mp (hfrees entry hlater)).1
      · have hother : ∀ entry ∈ announced rest, entry.2 ∉ thing.names := by
          intro entry hentry hmem
          have hlater : entry.2 ∈ rest.flatMap Registration.names :=
            map_snd_announced rest ▸ List.mem_map_of_mem hentry
          exact hdisjoint _ hmem _ hlater rfl
        exact Or.inr ⟨thing :: done, fault, last, by simp only [hlast], hextends.trans hmore,
          .of_free_append hfree (hfails.of_extends hextends hother)⟩

theorem registered_unregisterAll (things : List Registration) (registry : Registry) :
    (host.unregisterAll things registry).2.registered =
      registry.registered.filter (· ∉ things.flatMap Registration.names) := by
  induction things generalizing registry with
  | nil => exact (List.filter_eq_self.mpr fun _ _ ↦ by simp).symm
  | cons thing rest ih =>
    have hfirst : (host.answer (.unregister thing) registry).2.registered =
        registry.registered.filter (· ∉ thing.names) :=
      registered_unregisterNames registry thing thing.names
    rw [Host.unregisterAll]
    cases hanswer : host.answer (.unregister thing) registry with
    | mk result next =>
      rw [hanswer] at hfirst
      have hlast : (host.unregisterAll rest next).2.registered =
          registry.registered.filter (· ∉ (thing :: rest).flatMap Registration.names) := by
        rw [ih, hfirst, List.filter_filter]
        exact List.filter_congr fun name _ ↦ by simp [Bool.and_comm]
      cases result <;> exact hlast

end Calls

end LoginThrottle.Registry
