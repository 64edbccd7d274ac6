import Mathlib

/-!
# Computations that may refuse

A checked computation returns a value or the first refusal it meets. Success is peeled apart from
the outside: a sequence succeeds exactly when its parts do, a guard succeeds exactly when its
condition is clear, and a loop that succeeds keeps every property each of its steps keeps.
-/

namespace Maco.Base

open List

variable {ε α β σ : Type}

/-- Refuse when a condition holds. -/
def refuseIf (condition : Prop) [Decidable condition] (refusal : ε) : Except ε Unit :=
  if condition then .error refusal else .ok ()

/-- Demand a present value. -/
def require (value : Option α) (refusal : ε) : Except ε α :=
  match value with
  | some found => .ok found
  | none => .error refusal

/-- Replace the refusal of a computation, as `anyhow`'s `context` replaces the shown message. -/
def context {ε' : Type} (computation : Except ε' α) (refusal : ε) : Except ε α :=
  computation.mapError fun _ => refusal

variable {result : β}

theorem bind_ok {first : Except ε α} {rest : α → Except ε β} :
    (first >>= rest) = .ok result ↔ ∃ value, first = .ok value ∧ rest value = .ok result := by
  cases first with
  | error refusal => simp [bind, Except.bind]
  | ok value => simp [bind, Except.bind]

variable {refusal : ε}

theorem refuseIf_ok {condition : Prop} [Decidable condition] {done : Unit} :
    refuseIf condition refusal = .ok done ↔ ¬ condition := by
  unfold refuseIf
  split <;> simp_all

theorem require_ok {value : Option α} {found : α} :
    require value refusal = .ok found ↔ value = some found := by
  cases value <;> simp [require]

theorem context_ok {ε' : Type} {computation : Except ε' α} {result : α} :
    context computation refusal = .ok result ↔ computation = .ok result := by
  cases computation <;> simp [context, Except.mapError]

theorem mapError_ok {ε' : Type} {computation : Except ε' α} {translate : ε' → ε} {result : α} :
    computation.mapError translate = .ok result ↔ computation = .ok result := by
  cases computation <;> simp [Except.mapError]

theorem map_ok {computation : Except ε α} {f : α → β} :
    computation.map f = .ok result ↔ ∃ value, computation = .ok value ∧ f value = result := by
  cases computation <;> simp [Except.map]

theorem pure_ok {value result : α} : (pure value : Except ε α) = .ok result ↔ value = result := by
  simp [pure, Except.pure]

/-- The rules that peel the success of a sequence apart, as one rewriting lemma. -/
theorem ok_iff :
    (∀ {ε α β : Type} {first : Except ε α} {rest : α → Except ε β} {result : β},
      (first >>= rest) = .ok result ↔ ∃ value, first = .ok value ∧ rest value = .ok result) ∧
    (∀ {ε : Type} {refusal : ε} {condition : Prop} [Decidable condition] {done : Unit},
      refuseIf condition refusal = .ok done ↔ ¬ condition) ∧
    (∀ {ε α : Type} {refusal : ε} {value : Option α} {found : α},
      require value refusal = .ok found ↔ value = some found) ∧
    (∀ {ε α : Type} {value result : α}, (pure value : Except ε α) = .ok result ↔ value = result) ∧
    -- a check that has passed returns nothing
    ∀ {outcome : Prop}, (∃ _ : Unit, outcome) ↔ outcome :=
  ⟨bind_ok, refuseIf_ok, require_ok, pure_ok, exists_const Unit⟩

@[simp] theorem ok_bind (value : α) (rest : α → Except ε β) :
    ((Except.ok value : Except ε α) >>= rest) = rest value := rfl

@[simp] theorem error_bind (refusal : ε) (rest : α → Except ε β) :
    ((Except.error refusal : Except ε α) >>= rest) = .error refusal := rfl

theorem ok_or_error (computation : Except ε α) :
    (∃ value, computation = .ok value) ∨ ∃ refusal, computation = .error refusal := by
  cases computation with
  | ok value => exact .inl ⟨value, rfl⟩
  | error refusal => exact .inr ⟨refusal, rfl⟩

/-- A computation whose result, if any, is known to have a value succeeds with it. -/
theorem ok_of_toOption {computation : Except ε α} {f : α → β}
    (known : computation.toOption.map f = some result) :
    ∃ value, computation = .ok value ∧ f value = result := by
  cases computation with
  | ok value => exact ⟨value, rfl, by simpa [Except.toOption] using known⟩
  | error refusal => cases known

/-- Check a value that may be missing. -/
def whenSome (value : Option α) (check : α → Except ε Unit) : Except ε Unit :=
  match value with
  | some value => check value
  | none => .ok ()

theorem whenSome_ok {value : Option α} {check : α → Except ε Unit} {done : Unit} :
    whenSome value check = .ok done ↔ ∀ present ∈ value, check present = .ok () := by
  cases value with
  | none => simp [whenSome]
  | some present => simp [whenSome]

variable {items : List α}

/-- Checking a list succeeds exactly when every item passes. -/
theorem forM_ok {f : α → Except ε Unit} {done : Unit} :
    items.forM f = .ok done ↔ ∀ item ∈ items, f item = .ok () := by
  induction items with
  | nil => simp [pure_ok]
  | cons item items ih =>
    rw [forall_mem_cons, ← ih, List.forM, bind_ok]
    constructor
    · rintro ⟨⟨⟩, first, rest⟩
      exact ⟨first, rest⟩
    · rintro ⟨first, rest⟩
      exact ⟨(), first, rest⟩

/-- Mapping a list succeeds exactly when every item does, with the results in order. -/
theorem mapM_ok {f : α → Except ε β} {results : List β} :
    items.mapM f = .ok results ↔ items.map f = results.map .ok := by
  induction items generalizing results with
  | nil =>
    rw [mapM_nil, pure_ok, map_nil, nil_eq, nil_eq, map_eq_nil_iff]
  | cons item items ih =>
    simp only [mapM_cons, bind_ok, pure_ok, ih, map_cons, @eq_comm _ (f item :: _), map_eq_cons_iff]
    constructor
    · rintro ⟨result, first, rest, others, rfl⟩
      exact ⟨result, rest, rfl, first.symm, others.symm⟩
    · rintro ⟨result, rest, rfl, first, others⟩
      exact ⟨result, first.symm, rest, others.symm, rfl⟩

theorem mapM_eq_self {f : α → Except ε α}
    (fixed : ∀ item ∈ items, f item = .ok item) : items.mapM f = .ok items :=
  mapM_ok.mpr (map_congr_left fixed)

theorem mapM_succeeds [Nonempty β] {f : α → Except ε β}
    (each : ∀ item ∈ items, ∃ result, f item = .ok result) :
    ∃ results, items.mapM f = .ok results := by
  choose! result found using each
  refine ⟨items.map result, mapM_ok.mpr ?_⟩
  rw [map_map]
  exact map_congr_left found

theorem mem_mapM_ok {f : α → Except ε β} {results : List β} (mapped : items.mapM f = .ok results) :
    result ∈ results ↔ ∃ item ∈ items, f item = .ok result := by
  rw [← mem_map, mapM_ok.mp mapped, mem_map_of_injective fun _ _ => Except.ok.inj]

variable {step : σ → α → Except ε σ} {start finish : σ}

/-- A property of the state and the items already read, kept by every successful step of a loop,
holds of its result. -/
theorem foldlM_invariant (property : List α → σ → Prop)
    (keeps : ∀ done item state next, property done state → step state item = .ok next →
      property (done ++ [item]) next) (initial : property [] start)
    (success : items.foldlM step start = .ok finish) : property items finish := by
  suffices general : ∀ (items done : List α) (start : σ), property done start →
      items.foldlM step start = .ok finish → property (done ++ items) finish by
    simpa using general items [] start initial success
  intro items
  induction items with
  | nil =>
    intro done start holds success
    rw [foldlM_nil, pure_ok] at success
    rwa [append_nil, ← success]
  | cons item items ih =>
    intro done start holds success
    rw [foldlM_cons, bind_ok] at success
    obtain ⟨next, stepped, rest⟩ := success
    have result := ih (done ++ [item]) next (keeps done item start next holds stepped) rest
    simpa using result

/-- A loop that succeeds succeeds up to each of its items and on that item. -/
theorem foldlM_split {before after : List α} {item : α}
    (success : (before ++ item :: after).foldlM step start = .ok finish) :
    ∃ state next, before.foldlM step start = .ok state ∧ step state item = .ok next := by
  rw [foldlM_append, bind_ok] at success
  obtain ⟨state, reached, rest⟩ := success
  rw [foldlM_cons, bind_ok] at rest
  obtain ⟨next, stepped, -⟩ := rest
  exact ⟨state, next, reached, stepped⟩

/-- A loop every step of which succeeds from a state with the property succeeds. -/
theorem foldlM_succeeds (property : List α → σ → Prop)
    (advances : ∀ done item rest state, items = done ++ item :: rest → property done state →
      ∃ next, step state item = .ok next ∧ property (done ++ [item]) next)
    (initial : property [] start) :
    ∃ finish, items.foldlM step start = .ok finish ∧ property items finish := by
  suffices general : ∀ (rest done : List α) (state : σ), items = done ++ rest →
      property done state → ∃ finish, rest.foldlM step state = .ok finish ∧ property items finish by
    exact general items [] start rfl initial
  intro rest
  induction rest with
  | nil =>
    intro done state split holds
    rw [append_nil] at split
    exact ⟨state, rfl, split ▸ holds⟩
  | cons item rest ih =>
    intro done state split holds
    obtain ⟨next, stepped, kept⟩ := advances done item rest state split holds
    obtain ⟨finish, finished, result⟩ := ih (done ++ [item]) next (by simp [split]) kept
    refine ⟨finish, ?_, result⟩
    rw [foldlM_cons, stepped, ok_bind, finished]

/-- Two loops whose steps agree on every item agree. -/
theorem foldlM_congr {step' : σ → α → Except ε σ}
    (same : ∀ item ∈ items, ∀ state, step state item = step' state item) (start : σ) :
    items.foldlM step start = items.foldlM step' start := by
  induction items generalizing start with
  | nil => rfl
  | cons item items ih =>
    rw [foldlM_cons, foldlM_cons, same item mem_cons_self]
    congr 1
    funext next
    exact ih (fun later member => same later (mem_cons_of_mem _ member)) next

/-- Two loops over the same items stay related when their steps do. -/
theorem foldlM_related {τ : Type} {step' : τ → α → Except ε τ} (related : σ → τ → Prop)
    (steps : ∀ item ∈ items, ∀ state state' next next', related state state' →
      step state item = .ok next → step' state' item = .ok next' → related next next')
    {start' finish' : τ} (initial : related start start')
    (success : items.foldlM step start = .ok finish)
    (success' : items.foldlM step' start' = .ok finish') : related finish finish' := by
  induction items generalizing start start' with
  | nil =>
    rw [foldlM_nil, pure_ok] at success success'
    rwa [← success, ← success']
  | cons item items ih =>
    rw [foldlM_cons, bind_ok] at success success'
    obtain ⟨next, stepped, rest⟩ := success
    obtain ⟨next', stepped', rest'⟩ := success'
    exact ih (fun later member => steps later (mem_cons_of_mem _ member))
      (steps item mem_cons_self _ _ _ _ initial stepped stepped') rest rest'

/-- The images of the items that pass a test, in order. -/
def collectM (test : α → Except ε Bool) (image : α → β) (items : List α) : Except ε (List β) :=
  items.foldlM (fun collected item => do
    let chosen ← test item
    pure (if chosen = true then collected ++ [image item] else collected)) []

/-- One step of a loop that reads an optional value from an item and goes on with a value found. -/
def onRead (read : α → Except ε (Option β)) (step : σ → β → Except ε σ) (state : σ) (item : α) :
    Except ε σ := do
  match ← read item with
  | some value => step state value
  | none => pure state

/-- The values a loop reads from its items. -/
def valuesRead (read : α → Except ε (Option β)) (items : List α) : List β :=
  items.filterMap fun item => (read item).toOption.join

/-- A loop that reads succeeds exactly when every read does and the loop over the values does. -/
theorem foldlM_onRead_ok {read : α → Except ε (Option β)} {step : σ → β → Except ε σ}
    : items.foldlM (onRead read step) start = .ok finish ↔
      (∀ item ∈ items, ∃ value, read item = .ok value) ∧
        (valuesRead read items).foldlM step start = .ok finish := by
  induction items generalizing start with
  | nil => simp [valuesRead]
  | cons item items ih =>
    have later : (items.filterMap fun item => (read item).toOption.join) =
        valuesRead read items := rfl
    rw [foldlM_cons, forall_mem_cons, valuesRead, filterMap_cons, onRead, later]
    cases found : read item with
    | error refusal => simp
    | ok value =>
      cases value with
      | none => simpa [Except.toOption, pure, Except.pure] using ih
      | some value =>
        simp only [ok_bind, Except.toOption, Option.join_some, foldlM_cons, bind_ok, ih,
          Except.ok.injEq, exists_eq', true_and]
        constructor
        · rintro ⟨next, stepped, reads, rest⟩
          exact ⟨reads, next, stepped, rest⟩
        · rintro ⟨reads, next, stepped, rest⟩
          exact ⟨next, stepped, reads, rest⟩

end Maco.Base
