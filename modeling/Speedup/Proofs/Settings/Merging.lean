import Mathlib.Data.List.Induction
import Mathlib.Data.List.Nodup
import Speedup.Settings.Layers

/-!
# Settings laid over one another

Whatever some tables that are laid over one another say under a name (`said`) is again laid over
one another there, and nothing else comes in (`bind_field?_foldl`). Of plain values the last one
stays (`overlay_eq_getLast?`), whatever is said beside it. The entries of documents are such
settings (`nest`), as long as their names lead through tables only.
-/

namespace Speedup.Setting

variable {s old new : Setting} {name : String} {path : List String} {ss : List Setting}

/-! ## Paths of names -/

/-- All settings that fields hold under a name, in their order. -/
def under (name : String) (fields : List (String × Setting)) : List Setting :=
  (fields.filter fun f => f.1 = name).map (·.2)

/-- All that a setting says at a path. -/
def said : List String → Setting → List Setting
  | [], s => [s]
  | name :: rest, s => (under name s.fields).flatMap (said rest)

/-- A setting with nothing around it but tables for the names of a path. -/
def nest : List String → Setting → Setting
  | [], s => s
  | name :: rest, s => table [(name, nest rest s)]

def isTable : Setting → Bool
  | table _ => true
  | _ => false

theorem isTable_iff : s.isTable = true ↔ ∃ fields, s = table fields := by
  cases s <;> simp [isTable]

theorem said_append (path more : List String) (s : Setting) :
    said (path ++ more) s = (said path s).flatMap (said more) := by
  induction path generalizing s with
  | nil => simp [said]
  | cons name rest ih =>
      have ih : said (rest ++ more) = fun s => (said rest s).flatMap (said more) := funext ih
      rw [List.cons_append, said, said, ih, List.flatMap_assoc]

theorem under_cons (name : String) (f : String × Setting) (rest : List (String × Setting)) :
    under name (f :: rest) = if f.1 = name then f.2 :: under name rest else under name rest := by
  unfold under
  rw [List.filter_cons]
  split <;> simp_all

theorem mem_said_singleton : s ∈ said [name] old ↔ (name, s) ∈ old.fields := by
  simp [said, under]

/-! ## One setting over another -/

def layOver (there : Option Setting) (s : Setting) : Option Setting :=
  some ((there.getD absent).laidOver s)

/-- Settings laid over one another, the first one at the bottom. -/
def overlay (ss : List Setting) : Option Setting := ss.foldl layOver none

theorem lookup_putField (name' : String) (fields : List (String × Setting)) :
    (putField name s fields).lookup name' =
      if name' = name then some s else fields.lookup name' := by
  induction fields with
  | nil => by_cases same : name' = name <;> simp [putField, same]
  | cons f rest ih =>
      unfold putField
      by_cases found : f.1 = name
      · rw [if_pos found, List.lookup_cons, List.lookup_cons, found]
        by_cases same : name' = name
        · simp [same]
        · have other : (name' == name) = false := beq_false_of_ne same
          simp [same, other]
      · rw [if_neg found, List.lookup_cons, List.lookup_cons, ih]
        by_cases same : name' = name
        · have other : (name == f.1) = false := beq_false_of_ne (Ne.symm found)
          simp [same, other]
        · simp [same]

/-- What fields say under a name is laid over what was there, and the rest does not matter. -/
theorem lookup_fieldsLaidOver (fields : List (String × Setting))
    (below : List (String × Setting)) :
    (fieldsLaidOver below fields).lookup name =
      (under name fields).foldl layOver (below.lookup name) := by
  induction fields generalizing below with
  | nil => simp [fieldsLaidOver, under]
  | cons f rest ih =>
      obtain ⟨name', s⟩ := f
      rw [fieldsLaidOver, ih, lookup_putField, under_cons]
      by_cases same : name' = name
      · subst same
        simp [layOver]
      · rw [if_neg (Ne.symm same), if_neg same]

theorem field?_laidOver (new_table : new.isTable) :
    (old.laidOver new).field? name = (under name new.fields).foldl layOver (old.field? name) := by
  cases new with
  | table fields =>
      rw [laidOver]
      exact lookup_fieldsLaidOver fields old.fields
  | _ => cases new_table

/-- A field of settings that are laid over one another. -/
theorem bind_field?_foldl (there : Option Setting) (tables : ∀ s ∈ ss, s.isTable) :
    (ss.foldl layOver there).bind (field? · name) =
      (ss.flatMap (said [name])).foldl layOver (there.bind (field? · name)) := by
  induction ss generalizing there with
  | nil => rfl
  | cons s rest ih =>
      obtain ⟨table, tables⟩ := List.forall_mem_cons.mp tables
      have one : (layOver there s).bind (field? · name) =
          (under name s.fields).foldl layOver (there.bind (field? · name)) := by
        refine (field?_laidOver table).trans ?_
        cases there <;> rfl
      rw [List.foldl_cons, ih _ tables, one, List.flatMap_cons, List.foldl_append]
      simp [said]

theorem laidOver_of_not_isTable (plain : ¬ new.isTable) : old.laidOver new = new := by
  cases new with
  | table fields => exact absurd rfl plain
  | _ => simp [laidOver]

/-- Of plain values the last one stays. -/
theorem overlay_eq_getLast? (plain : ∀ s ∈ ss, ¬ s.isTable) : overlay ss = ss.getLast? := by
  induction ss using List.reverseRecOn with
  | nil => rfl
  | append_singleton front s _ =>
      have last : ¬ s.isTable := plain s (by simp)
      rw [overlay, List.foldl_append, List.getLast?_concat]
      exact congrArg some (laidOver_of_not_isTable last)

/-- Tables laid over one another are a table, if there are any. -/
theorem isTable_of_overlay (tables : ∀ s ∈ ss, s.isTable) (h : overlay ss = some s) :
    s.isTable := by
  induction ss using List.reverseRecOn with
  | nil => cases h
  | append_singleton front last _ =>
      rw [overlay, List.foldl_append] at h
      cases last with
      | table fields =>
          cases h
          simp [laidOver, isTable]
      | _ => cases tables _ (List.mem_append_right _ (List.mem_singleton.mpr rfl))

theorem isSome_overlay_iff : (overlay ss).isSome ↔ ss ≠ [] := by
  cases ss using List.reverseRecOn with
  | nil => simp [overlay]
  | append_singleton front s => simp [overlay, layOver]

/-! ## Names are there once -/

theorem map_fst_putField (fields : List (String × Setting)) :
    (putField name s fields).map (·.1) =
      if name ∈ fields.map (·.1) then fields.map (·.1) else fields.map (·.1) ++ [name] := by
  induction fields with
  | nil => rfl
  | cons f rest ih =>
      unfold putField
      by_cases found : f.1 = name
      · simp [found]
      · rw [if_neg found, List.map_cons, ih]
        by_cases later : name ∈ rest.map (·.1) <;> simp [later, Ne.symm found]

theorem nodup_putField {fields : List (String × Setting)} (nodup : (fields.map (·.1)).Nodup) :
    ((putField name s fields).map (·.1)).Nodup := by
  rw [map_fst_putField]
  split
  · exact nodup
  next new => exact List.nodup_append.mpr ⟨nodup, List.nodup_singleton _, by grind⟩

theorem nodup_fieldsLaidOver {fields below : List (String × Setting)}
    (nodup : (below.map (·.1)).Nodup) : ((fieldsLaidOver below fields).map (·.1)).Nodup := by
  induction fields generalizing below with
  | nil => simpa [fieldsLaidOver] using nodup
  | cons f rest ih =>
      rw [fieldsLaidOver]
      exact ih (nodup_putField nodup)

/-- However often a name is said, it is there once when tables are laid over one another. -/
theorem nodup_fields_overlay (h : overlay ss = some s) : (s.fields.map (·.1)).Nodup := by
  induction ss using List.reverseRecOn generalizing s with
  | nil => cases h
  | append_singleton front last ih =>
      rw [overlay, List.foldl_append] at h
      obtain rfl := Option.some_inj.mp h
      have below : (((overlay front).getD absent).fields.map (·.1)).Nodup := by
        cases there : overlay front with
        | none => exact List.nodup_nil
        | some s => exact ih there
      cases last with
      | table fields =>
          rw [laidOver]
          exact nodup_fieldsLaidOver below
      | _ => simp [laidOver, fields]

/-! ## Entries of documents -/

/-- The names of steps that lead through tables only. -/
def names? : List KeyStep → Option (List String)
  | [] => some []
  | .field name :: rest => (names? rest).map (name :: ·)
  | .item _ :: _ => none

theorem putAt_eq_laidOver {steps : List KeyStep} (names : names? steps = some path) :
    s.putAt steps new = s.laidOver (nest path new) := by
  induction steps generalizing s path with
  | nil =>
      cases names
      rw [putAt, nest]
  | cons step rest ih =>
      cases step with
      | item index => cases names
      | field name =>
          obtain ⟨path, more, rfl⟩ := Option.map_eq_some_iff.mp names
          rw [putAt, ih more, nest, laidOver, fieldsLaidOver, fieldsLaidOver]
          rfl

theorem field?_putAt_of_ne {other : String} {steps : List KeyStep} (ne : name ≠ other) :
    (s.putAt (.field other :: steps) new).field? name = s.field? name := by
  rw [putAt, field?, fields, lookup_putField, if_neg ne]
  rfl

end Speedup.Setting
