import Mathlib.Data.List.Forall2

/-!
# Outcomes of steps

A step gives a result or a fault, and steps in a row give a result exactly when
every one of them does.  What is known of a step is when it gives a result and what is
true of the result then; both are put together along with the steps.
-/

namespace GraphQL
namespace Outcome

variable {ε α β : Type}

@[simp] theorem ok_bind (value : α) (next : α → Except ε β) :
    (Except.ok value >>= next) = next value := rfl

@[simp] theorem error_bind (fault : ε) (next : α → Except ε β) :
    (Except.error fault >>= next) = Except.error fault := rfl

/-- The fault of an outcome that is no result. -/
def fault? : Except ε α → Option ε
  | .ok _ => none
  | .error fault => some fault

theorem fault?_eq_none_iff {outcome : Except ε α} :
    fault? outcome = none ↔ ∃ value, outcome = .ok value := by
  cases outcome with
  | ok value => exact iff_of_true rfl ⟨value, rfl⟩
  | error fault => simp [fault?]

theorem fault?_eq_some_iff
    {outcome : Except ε α}
    {fault : ε} :
    fault? outcome = some fault ↔ outcome = .error fault := by
  cases outcome with
  | ok value => simp [fault?]
  | error other => simp [fault?]

theorem toOption_eq_some_iff
    {outcome : Except ε α}
    {result : α} :
    outcome.toOption = some result ↔ outcome = .ok result := by
  cases outcome <;> simp [Except.toOption]

/-- Two steps give a result exactly when both do. -/
theorem bind_eq_ok_iff
    {first : Except ε α}
    {next : α → Except ε β}
    {result : β} :
    (first >>= next) = .ok result ↔
      ∃ value, first = .ok value ∧ next value = .ok result := by
  cases first with
  | error fault => simp
  | ok value => simp

/-- A result that is changed afterwards is there exactly when the result is. -/
theorem map_eq_ok_iff
    {first : Except ε α}
    {change : α → β}
    {result : β} :
    first.map change = .ok result ↔ ∃ value, first = .ok value ∧ change value = result := by
  cases first with
  | error fault => simp [Except.map]
  | ok value => simp [Except.map]

/-- A result is there exactly when it is with faults told differently. -/
theorem mapError_eq_ok_iff
    {φ : Type}
    {first : Except ε α}
    {change : ε → φ}
    {result : α} :
    first.mapError change = .ok result ↔ first = .ok result := by
  cases first with
  | error fault => simp [Except.mapError]
  | ok value => simp [Except.mapError]

/-- A value under a key is there exactly when the value is. -/
theorem entry_eq_ok_iff
    {κ : Type}
    {key : κ}
    {first : Except ε α}
    {entry : κ × α} :
    (do return (key, ← first)) = Except.ok entry ↔ entry.1 = key ∧ first = .ok entry.2 := by
  rw [bind_eq_ok_iff]
  constructor
  · rintro ⟨value, found, same⟩
    obtain rfl := Except.ok.inj same
    exact ⟨rfl, found⟩
  · rintro ⟨rfl, found⟩
    exact ⟨entry.2, found, rfl⟩

/-- A step for each item gives results exactly if it gives each of them. -/
theorem mapM_eq_ok_iff
    {step : α → Except ε β}
    {items : List α}
    {results : List β} :
    items.mapM step = .ok results ↔
      List.Forall₂ (fun item result => step item = .ok result) items results := by
  induction items generalizing results with
  | nil =>
    rw [List.mapM_nil, List.forall₂_nil_left_iff]
    exact ⟨fun same => (Except.ok.inj same).symm, fun same => same ▸ rfl⟩
  | cons item items inductionHypothesis =>
    rw [List.mapM_cons, bind_eq_ok_iff, List.forall₂_cons_left_iff]
    constructor
    · rintro ⟨first, foundFirst, found⟩
      obtain ⟨rest, foundRest, same⟩ := bind_eq_ok_iff.mp found
      exact ⟨first, rest, foundFirst, inductionHypothesis.mp foundRest, (Except.ok.inj same).symm⟩
    · rintro ⟨first, rest, foundFirst, foundRest, rfl⟩
      refine ⟨first, foundFirst, bind_eq_ok_iff.mpr ⟨rest, ?_, rfl⟩⟩
      exact inductionHypothesis.mpr foundRest

/-- Every second part of a list of pairs comes with a first part. -/
theorem exists_of_mem_forall₂
    {related : α → β → Prop}
    {items : List α}
    {results : List β}
    {result : β}
    (areRelated : List.Forall₂ related items results)
    (present : result ∈ results) :
    ∃ item ∈ items, related item result := by
  induction areRelated with
  | nil => cases present
  | cons isRelated _ inductionHypothesis =>
    rcases List.mem_cons.mp present with rfl | later
    · exact ⟨_, List.mem_cons_self, isRelated⟩
    · obtain ⟨item, among, isRelated⟩ := inductionHypothesis later
      exact ⟨item, List.mem_cons_of_mem _ among, isRelated⟩

/-- If each of some items is related to something, so are all of them together. -/
theorem exists_forall₂
    {related : α → β → Prop}
    {items : List α}
    (each : ∀ item ∈ items, ∃ result, related item result) :
    ∃ results, List.Forall₂ related items results := by
  induction items with
  | nil => exact ⟨[], .nil⟩
  | cons item items inductionHypothesis =>
    obtain ⟨⟨first, isRelated⟩, eachOther⟩ := List.forall_mem_cons.mp each
    obtain ⟨rest, areRelated⟩ := inductionHypothesis eachOther
    exact ⟨first :: rest, .cons isRelated areRelated⟩

/-- What holds of the first part of every pair holds of all first parts. -/
theorem forall_mem_of_forall₂
    {related : α → β → Prop}
    {good : α → Prop}
    {items : List α}
    {results : List β}
    (areRelated : List.Forall₂ related items results)
    (isGood : ∀ item result, related item result → good item) :
    ∀ item ∈ items, good item := by
  have both := areRelated.imp fun item result isRelated =>
    And.intro (isGood item result isRelated) isRelated
  exact ((List.forall₂_and_left _ _).mp both).1

/-- A step that gives a result for each item gives those results. -/
theorem mapM_eq_ok_map
    {step : α → Except ε β}
    {result : α → β}
    {items : List α}
    (gives : ∀ item ∈ items, step item = .ok (result item)) :
    items.mapM step = .ok (items.map result) :=
  mapM_eq_ok_iff.mpr (List.forall₂_map_right_iff.mpr (List.forall₂_same.mpr gives))

/-! ## Whether there is a result -/

theorem exists_bind_iff
    {first : Except ε α}
    {next : α → Except ε β} :
    (∃ result, (first >>= next) = .ok result) ↔
      ∃ value, first = .ok value ∧ ∃ result, next value = .ok result := by
  cases first with
  | error fault => simp
  | ok value => simp

theorem exists_map_iff
    {first : Except ε α}
    {change : α → β} :
    (∃ result, first.map change = .ok result) ↔ ∃ value, first = .ok value := by
  cases first with
  | error fault => simp [Except.map]
  | ok value => simp [Except.map]

theorem exists_mapM_iff
    {step : α → Except ε β}
    {items : List α} :
    (∃ results, items.mapM step = .ok results) ↔
      ∀ item ∈ items, ∃ result, step item = .ok result := by
  induction items with
  | nil => simp [pure, Except.pure]
  | cons item items inductionHypothesis =>
    rw [List.forall_mem_cons, ← inductionHypothesis, List.mapM_cons]
    simp [exists_bind_iff, pure, Except.pure]

/-- A value under a key is there if the value is. -/
theorem exists_entry_iff
    {κ : Type}
    {key : κ}
    {first : Except ε α} :
    (∃ entry, (do return (key, ← first)) = Except.ok entry) ↔ ∃ value, first = .ok value := by
  simp [exists_bind_iff, pure, Except.pure]

/-! ## What can go wrong -/

/-- Every fault of the outcome is of some sort. -/
def Blames (outcome : Except ε α) (bad : ε → Prop) : Prop :=
  ∀ fault, outcome = .error fault → bad fault

namespace Blames

variable
  {first : Except ε α}
  {bad : ε → Prop}

theorem ok (value : α) : Blames (.ok value : Except ε α) bad :=
  nofun

theorem error
    {fault : ε}
    (isBad : bad fault) :
    Blames (.error fault : Except ε α) bad := by
  intro other same
  obtain rfl := Except.error.inj same
  exact isBad

theorem bind
    {next : α → Except ε β}
    (blames : Blames first bad)
    (blamesNext : ∀ value, first = .ok value → Blames (next value) bad) :
    Blames (first >>= next) bad := by
  cases first with
  | error fault => exact error (blames fault rfl)
  | ok value => exact blamesNext value rfl

theorem map
    (blames : Blames first bad)
    (change : α → β) :
    Blames (first.map change) bad := by
  cases first with
  | error fault => exact error (blames fault rfl)
  | ok value => exact ok (change value)

end Blames

/-! ## Stopping at the first fault -/

/-- The outcome is the fault of the first place where something is wrong, and a result if
there is none. -/
def Stops {ι : Type} (faultAt : ι → Option ε) (outcome : Except ε α) (places : List ι) : Prop :=
  fault? outcome = places.findSome? faultAt

namespace Stops

variable
  {ι : Type}
  {faultAt : ι → Option ε}
  {first : Except ε α}
  {places : List ι}

theorem ok (value : α) : Stops faultAt (.ok value) [] :=
  rfl

/-- A place where nothing is wrong. -/
theorem skip
    {place : ι}
    (fine : faultAt place = none)
    (stops : Stops faultAt first places) :
    Stops faultAt first (place :: places) := by
  rw [Stops, List.findSome?_cons, fine]
  exact stops

theorem single
    {place : ι}
    (same : fault? first = faultAt place) :
    Stops faultAt first [place] := by
  rw [Stops, same]
  cases fault : faultAt place with
  | none => simp [fault]
  | some _ => simp [fault]

/-- Steps in a row stop at the first fault of both. -/
theorem bind
    {next : α → Except ε β}
    {placesNext : List ι}
    (stops : Stops faultAt first places)
    (stopsNext : ∀ value, first = .ok value → Stops faultAt (next value) placesNext) :
    Stops faultAt (first >>= next) (places ++ placesNext) := by
  rw [Stops, List.findSome?_append, ← stops]
  cases first with
  | error fault => rfl
  | ok value => exact stopsNext value rfl

/-- A step at a single place, and what comes after it. -/
theorem cons
    {place : ι}
    {next : α → Except ε β}
    (same : fault? first = faultAt place)
    (stopsNext : ∀ value, first = .ok value → Stops faultAt (next value) places) :
    Stops faultAt (first >>= next) (place :: places) :=
  (single same).bind stopsNext

/-- A last step that always gives a result. -/
theorem bind_ok
    (stops : Stops faultAt first places)
    (next : α → β) :
    Stops faultAt (first >>= fun value => .ok (next value)) places := by
  rw [← List.append_nil places]
  exact stops.bind fun value _ => ok (next value)

theorem map
    (stops : Stops faultAt first places)
    (change : α → β) :
    Stops faultAt (first.map change) places := by
  cases first with
  | error fault => exact stops
  | ok value => exact stops

/-- Items in a row stop at the first fault of all. -/
theorem mapM
    {step : α → Except ε β}
    {placesOf : α → List ι}
    {items : List α}
    (stops : ∀ item ∈ items, Stops faultAt (step item) (placesOf item)) :
    Stops faultAt (items.mapM step) (items.flatMap placesOf) := by
  induction items with
  | nil => exact ok []
  | cons item items inductionHypothesis =>
    rw [List.forall_mem_cons] at stops
    rw [List.mapM_cons, List.flatMap_cons]
    exact stops.1.bind fun value _ => (inductionHypothesis stops.2).bind_ok _

/-- No items are left out, without a fault. -/
theorem unlessEmpty
    {step : α → Except ε β}
    {placesOf : α → List ι}
    {items : List α}
    (stops : ∀ item ∈ items, Stops faultAt (step item) (placesOf item)) :
    Stops faultAt (if items.isEmpty then .ok none else (items.mapM step).map some)
      (items.flatMap placesOf) := by
  cases items with
  | nil => exact ok none
  | cons item items => exact (mapM stops).map some

/-- There is a result exactly if nothing is wrong at any place. -/
theorem exists_ok_iff (stops : Stops faultAt first places) :
    (∃ value, first = .ok value) ↔ ∀ place ∈ places, faultAt place = none := by
  rw [← fault?_eq_none_iff, stops, List.findSome?_eq_none_iff]

/-- What is at fault is the first place where something is wrong. -/
theorem error_iff
    (stops : Stops faultAt first places)
    (fault : ε) :
    first = .error fault ↔ places.findSome? faultAt = some fault := by
  rw [← stops, fault?_eq_some_iff]

/-- Something is wrong at some place if there is a fault. -/
theorem exists_of_error
    {fault : ε}
    (stops : Stops faultAt first places)
    (isFault : first = .error fault) :
    ∃ place ∈ places, faultAt place = some fault :=
  List.exists_of_findSome?_eq_some ((stops.error_iff fault).mp isFault)

end Stops

/-! ## Outcomes that agree -/

/-- Both outcomes are faults, or both are the same result. -/
def Agree (first second : Except ε α) : Prop :=
  first.toOption = second.toOption

namespace Agree

variable {first second : Except ε α}

theorem refl (outcome : Except ε α) : Agree outcome outcome :=
  rfl

theorem errors (fault other : ε) : Agree (.error fault : Except ε α) (.error other) :=
  rfl

/-- Outcomes agree exactly if they have the same results. -/
theorem iff_ok_iff :
    Agree first second ↔ ∀ value, first = .ok value ↔ second = .ok value := by
  rw [Agree]
  constructor
  · intro agree value
    cases first <;> cases second <;> simp_all [Except.toOption]
  · intro same
    cases first with
    | error fault =>
      cases second with
      | error other => rfl
      | ok other => cases (same other).mpr rfl
    | ok value => rw [(same value).mp rfl]

/-- Steps in a row agree if they do one by one. -/
theorem bind
    {next next' : α → Except ε β}
    (agree : Agree first second)
    (agreeNext : ∀ value, first = .ok value → Agree (next value) (next' value)) :
    Agree (first >>= next) (second >>= next') := by
  cases first with
  | error fault =>
    cases second with
    | error other => exact errors fault other
    | ok value => cases agree
  | ok value =>
    cases second with
    | error other => cases agree
    | ok other =>
      obtain rfl := Option.some.inj agree
      exact agreeNext value rfl

theorem map
    {change change' : α → β}
    (agree : Agree first second)
    (same : ∀ value, change value = change' value) :
    Agree (first.map change) (second.map change') := by
  obtain rfl : change = change' := funext same
  cases first with
  | error fault =>
    cases second with
    | error other => exact errors fault other
    | ok value => cases agree
  | ok value =>
    cases second with
    | error other => cases agree
    | ok other => rw [Option.some.inj agree, Agree]

/-- Steps for items agree if they do item by item. -/
theorem mapM
    {step : α → Except ε β}
    {items others : List α}
    (agree : List.Forall₂ (fun item other => Agree (step item) (step other)) items others) :
    Agree (items.mapM step) (others.mapM step) := by
  induction agree with
  | nil => exact refl _
  | cons agreeFirst _ inductionHypothesis =>
    rw [List.mapM_cons, List.mapM_cons]
    exact agreeFirst.bind fun _ _ => inductionHypothesis.bind fun _ _ => refl _

/-- No items are left out on both sides. -/
theorem unlessEmpty
    {step : α → Except ε β}
    {items others : List α}
    (agree : List.Forall₂ (fun item other => Agree (step item) (step other)) items others) :
    Agree (if items.isEmpty then .ok none else (items.mapM step).map some)
      (if others.isEmpty then .ok none else (others.mapM step).map some) := by
  cases agree with
  | nil => exact refl _
  | cons agreeFirst agreeRest => exact (mapM (.cons agreeFirst agreeRest)).map fun _ => rfl

end Agree

/-! ## Conditions of results -/

/-- The step gives a result exactly under a condition, and the result is good. -/
structure Yields (outcome : Except ε α) (condition : Prop) (good : α → Prop) : Prop where
  /-- There is a result exactly under the condition. -/
  exists_iff : (∃ value, outcome = .ok value) ↔ condition
  /-- The result is good. -/
  good : ∀ value, outcome = .ok value → good value

namespace Yields

variable
  {first : Except ε α}
  {condition : Prop}
  {good : α → Prop}

theorem ok {value : α} (isGood : good value) :
    Yields (.ok value : Except ε α) True good where
  exists_iff := by simp
  good other same := by
    obtain rfl := Except.ok.inj same
    exact isGood

theorem congr
    {other : Prop}
    (yields : Yields first condition good)
    (same : condition ↔ other) :
    Yields first other good :=
  ⟨yields.exists_iff.trans same, yields.good⟩

theorem mono
    {better : α → Prop}
    (yields : Yields first condition good)
    (improve : ∀ value, good value → better value) :
    Yields first condition better :=
  ⟨yields.exists_iff, fun value found => improve value (yields.good value found)⟩

/-- Steps in a row give a result under the conditions of all of them. -/
theorem bind
    {next : α → Except ε β}
    {conditionNext : Prop}
    {goodNext : β → Prop}
    (yields : Yields first condition good)
    (yieldsNext : ∀ value, good value → Yields (next value) conditionNext goodNext) :
    Yields (first >>= next) (condition ∧ conditionNext) goodNext where
  exists_iff := by
    rw [← yields.exists_iff]
    constructor
    · rintro ⟨result, found⟩
      obtain ⟨value, foundFirst, foundNext⟩ := bind_eq_ok_iff.mp found
      have isGood := yields.good value foundFirst
      exact ⟨⟨value, foundFirst⟩, (yieldsNext value isGood).exists_iff.mp ⟨result, foundNext⟩⟩
    · rintro ⟨⟨value, foundFirst⟩, holds⟩
      have isGood := yields.good value foundFirst
      obtain ⟨result, foundNext⟩ := (yieldsNext value isGood).exists_iff.mpr holds
      exact ⟨result, bind_eq_ok_iff.mpr ⟨value, foundFirst, foundNext⟩⟩
  good result found := by
    obtain ⟨value, foundFirst, foundNext⟩ := bind_eq_ok_iff.mp found
    exact (yieldsNext value (yields.good value foundFirst)).good result foundNext

theorem map
    {change : α → β}
    {goodNext : β → Prop}
    (yields : Yields first condition good)
    (keeps : ∀ value, good value → goodNext (change value)) :
    Yields (first.map change) condition goodNext where
  exists_iff := by
    rw [← yields.exists_iff]
    cases first with
    | error fault => simp [Except.map]
    | ok value => simp [Except.map]
  good result found := by
    obtain ⟨value, foundFirst, rfl⟩ := map_eq_ok_iff.mp found
    exact keeps value (yields.good value foundFirst)

/-- A step for each item gives the results of all items. -/
theorem mapM
    {step : α → Except ε β}
    {conditions : α → Prop}
    {goods : α → β → Prop}
    {items : List α}
    (yields : ∀ item ∈ items, Yields (step item) (conditions item) (goods item)) :
    Yields (items.mapM step) (∀ item ∈ items, conditions item)
      (List.Forall₂ goods items) := by
  induction items with
  | nil => exact (ok List.Forall₂.nil).congr (by simp)
  | cons item items inductionHypothesis =>
    have yieldsRest := inductionHypothesis fun other present => yields other (by simp [present])
    rw [List.mapM_cons]
    refine ((yields item (by simp)).bind fun value isGood =>
      yieldsRest.bind fun values areGood => ok (.cons isGood areGood)).congr ?_
    simp

/-- Steps for items that are left out altogether where there are no items.  There are no
results then, or there are some. -/
theorem unlessEmpty
    {step : α → Except ε β}
    {items : List α}
    {goods : List β → Prop}
    (yields : Yields (items.mapM step) condition goods) :
    Yields (if items.isEmpty then .ok none else (items.mapM step).map some) condition
      (fun results? => results? ≠ some [] ∧ goods (results?.getD [])) := by
  cases items with
  | nil =>
    have holds : condition := yields.exists_iff.mp ⟨[], rfl⟩
    exact (ok ⟨by simp, yields.good [] rfl⟩).congr (by simp [holds])
  | cons item items =>
    rw [if_neg (by simp)]
    have mapped : Yields (((item :: items).mapM step).map some) condition fun _ => True :=
      yields.map fun _ _ => trivial
    refine ⟨mapped.exists_iff, ?_⟩
    intro results? found
    obtain ⟨results, foundAll, rfl⟩ := map_eq_ok_iff.mp found
    refine ⟨?_, yields.good results foundAll⟩
    rintro ⟨⟩
    rw [List.mapM_cons] at foundAll
    obtain ⟨first, -, foundRest⟩ := bind_eq_ok_iff.mp foundAll
    obtain ⟨rest, -, same⟩ := bind_eq_ok_iff.mp foundRest
    cases same

end Yields

end Outcome
end GraphQL
