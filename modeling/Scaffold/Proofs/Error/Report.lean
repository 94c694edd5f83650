import Scaffold.Draft.Check
import Scaffold.Render.Fragment

/-!
# Outcomes that report the first of some errors

Checking and rendering stop at the first thing that is wrong. `Reports` compares such an outcome
with the list of everything that is wrong, in the order in which it is looked at:

* **`Reports.bind`** and **`reports_mapM`**: steps made one after another report the errors of each,
  appended.
* **`Reports.exists_ok_iff`** and **`Reports.eq_error_iff`**: the outcome is a value just when the
  list is empty, and otherwise its first error.
-/

namespace Scaffold

/-- The outcome is a value if there are no errors, and the first of them otherwise. -/
inductive Reports {α : Type} : Except Error α → List Error → Prop where
  | value (value : α) : Reports (.ok value) []
  | first (error : Error) (rest : List Error) : Reports (.error error) (error :: rest)

section

variable {α β : Type} {outcome : Except Error α} {errors : List Error}

/-! ## What is reported -/

/-- A step succeeds just if it has found nothing. -/
theorem Reports.exists_ok_iff (h : Reports outcome errors) :
    (∃ value, outcome = .ok value) ↔ errors = [] := by
  cases h with
  | value value => simp
  | first error rest => simp

/-- A step fails with the first error it has found, and with no other. -/
theorem Reports.eq_error_iff (h : Reports outcome errors) (error : Error) :
    outcome = .error error ↔ errors.head? = some error := by
  cases h with
  | value value => simp
  | first error rest => simp

/-! ## Steps one after another -/

/-- The second step is looked at only where the first has a value, so its errors matter only
there. -/
theorem Reports.bind {next : α → Except Error β} {others : List Error} (h : Reports outcome errors)
    (hnext : ∀ value, outcome = .ok value → Reports (next value) others) :
    Reports (outcome >>= next) (errors ++ others) := by
  cases h with
  | value value => exact hnext value rfl
  | first error rest => exact .first error (rest ++ others)

/-- A step that only makes something of the value before adds no errors. -/
theorem Reports.map {next : α → Except Error β} (h : Reports outcome errors)
    (hnext : ∀ value, ∃ result, next value = .ok result) : Reports (outcome >>= next) errors := by
  rw [← List.append_nil errors]
  refine h.bind fun value _ => ?_
  obtain ⟨result, hresult⟩ := hnext value
  rw [hresult]
  exact .value result

/-- One step for each item, up to the first that fails. Induction along the items. -/
theorem reports_mapM {items : List α} {step : α → Except Error β} {found : α → List Error}
    (h : ∀ item ∈ items, Reports (step item) (found item)) :
    Reports (items.mapM step) (items.flatMap found) := by
  induction items with
  | nil => exact .value []
  | cons item rest ih =>
    have hrest : Reports (rest.mapM step) (rest.flatMap found) :=
      ih fun other hother => h other (List.mem_cons_of_mem item hother)
    rw [List.mapM_cons, List.flatMap_cons]
    exact (h item List.mem_cons_self).bind fun value _ => hrest.map fun values => ⟨_, rfl⟩

/-- Steps that give nothing back report as those that do. -/
theorem reports_forM {items : List α} {step : α → Except Error Unit} {found : α → List Error}
    (h : ∀ item ∈ items, Reports (step item) (found item)) :
    Reports (items.forM step) (items.flatMap found) := by
  induction items with
  | nil => exact .value ()
  | cons item rest ih =>
    have hrest : Reports (rest.forM step) (rest.flatMap found) :=
      ih fun other hother => h other (List.mem_cons_of_mem item hother)
    rw [List.flatMap_cons]
    show Reports (step item >>= fun _ => rest.forM step) _
    exact (h item List.mem_cons_self).bind fun _ _ => hrest

end

/-! ## Steps that have a value -/

section

variable {α β : Type}

/-- Two steps succeed just if both do, one after the other. -/
theorem bind_eq_ok_iff {outcome : Except Error α} {next : α → Except Error β} {result : β} :
    (outcome >>= next) = .ok result ↔ ∃ value, outcome = .ok value ∧ next value = .ok result := by
  cases outcome with
  | error error => simp [bind, Except.bind]
  | ok value => simp [bind, Except.bind]

/-- Several steps succeed just if the first and the rest do. -/
theorem mapM_cons_eq_ok {step : α → Except Error β} {item : α} {rest : List α} {results : List β}
    (h : (item :: rest).mapM step = .ok results) :
    ∃ first others,
      step item = .ok first ∧ rest.mapM step = .ok others ∧ results = first :: others := by
  rw [List.mapM_cons] at h
  obtain ⟨first, hfirst, hnext⟩ := bind_eq_ok_iff.mp h
  obtain ⟨others, hothers, hresults⟩ := bind_eq_ok_iff.mp hnext
  exact ⟨first, others, hfirst, hothers, (Except.ok.inj hresults).symm⟩

/-- Steps that have a value for each item have all of them together. -/
theorem mapM_eq_ok_map {step : α → Except Error β} {result : α → β} {items : List α}
    (h : ∀ item ∈ items, step item = .ok (result item)) :
    items.mapM step = .ok (items.map result) := by
  induction items with
  | nil => rfl
  | cons item rest ih =>
    have hrest := ih fun other hother => h other (List.mem_cons_of_mem item hother)
    rw [List.mapM_cons, h item List.mem_cons_self, hrest]
    rfl

/-- Where a step has a value for each item, each of the results is the value for some item. -/
theorem exists_of_mem_mapM {step : α → Except Error β} {items : List α} {results : List β}
    (h : items.mapM step = .ok results) {result : β} (hmem : result ∈ results) :
    ∃ item ∈ items, step item = .ok result := by
  induction items generalizing results with
  | nil =>
    obtain rfl : [] = results := Except.ok.inj h
    exact absurd hmem List.not_mem_nil
  | cons item rest ih =>
    obtain ⟨first, others, hfirst, hothers, rfl⟩ := mapM_cons_eq_ok h
    rcases List.mem_cons.mp hmem with rfl | hmem
    · exact ⟨item, List.mem_cons_self, hfirst⟩
    · obtain ⟨other, hother, hstep⟩ := ih hothers hmem
      exact ⟨other, List.mem_cons_of_mem item hother, hstep⟩

/-- Where a step returns its items as they are, so do all steps in a row. -/
theorem eq_of_mapM_eq_ok {step : α → Except Error α}
    (hstep : ∀ item result, step item = .ok result → item = result) {items results : List α}
    (h : items.mapM step = .ok results) : items = results := by
  induction items generalizing results with
  | nil => exact Except.ok.inj h
  | cons item rest ih =>
    obtain ⟨first, others, hfirst, hothers, rfl⟩ := mapM_cons_eq_ok h
    rw [hstep item first hfirst, ih hothers]

end

/-- A setting that passes its check is not missing. -/
theorem isMissing_of_checkSetting {entity setting : String} {text? : Option String}
    (h : checkSetting entity setting text? = .ok ()) : Text.isMissing text? = false := by
  unfold checkSetting at h
  split at h
  next => exact absurd h (by simp)
  next hgiven => simpa using hgiven

/-! ## Single errors -/

/-- The error of a setting that is missing. -/
def errorIfMissing (entity setting : String) (text? : Option String) : List Error :=
  if Text.isMissing text? then [.missingSetting entity setting] else []

/-- The error, if the condition holds. -/
def errorIf (condition : Bool) (error : Error) : List Error :=
  if condition then [error] else []

theorem errorIf_eq_nil_iff (condition : Bool) (error : Error) :
    errorIf condition error = [] ↔ condition = false := by
  cases condition <;> simp [errorIf]

/-- A setting that is given is no reason to fail. -/
theorem errorIfMissing_of_given {entity setting : String} {text? : Option String}
    (h : Text.isMissing text? = false) : errorIfMissing entity setting text? = [] := by
  rw [errorIfMissing, h]
  rfl

theorem reports_checkSetting (entity setting : String) (text? : Option String) :
    Reports (checkSetting entity setting text?) (errorIfMissing entity setting text?) := by
  unfold checkSetting errorIfMissing
  split
  next => exact .first _ []
  next => exact .value ()

/-- A combination is refused just if the condition holds. -/
theorem reports_refuseIf (condition : Bool) (error : Error) :
    Reports (refuseIf condition error) (errorIf condition error) := by
  unfold refuseIf errorIf
  split
  next => exact .first _ []
  next => exact .value ()

/-- Rendering requires a text as building checks a setting. -/
theorem reports_require (entity setting : String) (text? : Option String) :
    Reports (Render.require entity setting text?) (errorIfMissing entity setting text?) := by
  unfold errorIfMissing
  split
  next hmissing =>
    rw [Render.require_of_isMissing hmissing]
    exact .first _ []
  next hgiven =>
    obtain ⟨text, rfl, hshows⟩ := (Text.isMissing_eq_false_iff text?).mp (by simpa using hgiven)
    rw [Render.require_eq_ok_iff.mpr ⟨rfl, hshows⟩]
    exact .value text

end Scaffold
