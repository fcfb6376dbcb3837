import BoardActivity.Store.Table
import Mathlib.Algebra.GroupWithZero.Nat
import Mathlib.Data.List.Nodup

/-!
# Rows of a table under insertion and replacement

Lookups say what a table holds; counting and ordering need its rows. Inserting a row with a new key
appends it, and replacing rows under keys that are there maps the list of rows in place. Both forms
are stated here once, for every kind of row.
-/

namespace BoardActivity.Table

variable {α κ : Type} [Keyed α κ] [DecidableEq κ]

omit [DecidableEq κ] in
theorem ext_rows {s t : Table α} (h : s.rows = t.rows) : s = t := by
  cases s
  cases t
  simp_all

theorem mem_rows_iff {t : Table α} {r : α} : r ∈ t.rows ↔ t.find? (Keyed.key r) = some r :=
  ⟨fun h => find?_eq_some_iff.2 ⟨h, rfl⟩, fun h => (find?_eq_some_iff.1 h).1⟩

theorem find?_eq_none_iff {t : Table α} {k : κ} :
    t.find? k = none ↔ ∀ r ∈ t.rows, Keyed.key r ≠ k := by
  constructor
  · intro h r hr hk
    rw [find?_eq_some_iff.2 ⟨hr, hk⟩] at h
    cases h
  · intro h
    cases hf : t.find? k with
    | none => rfl
    | some r =>
      obtain ⟨hr, hk⟩ := find?_eq_some_iff.1 hf
      exact (h r hr hk).elim

theorem contains_iff {t : Table α} {k : κ} : t.contains k = true ↔ ∃ r, t.find? k = some r :=
  Option.isSome_iff_exists

theorem contains_iff_mem {t : Table α} {k : κ} :
    t.contains k = true ↔ ∃ r ∈ t.rows, Keyed.key r = k := by
  simp only [contains_iff, find?_eq_some_iff]

theorem contains_put (t : Table α) (row : α) (k : κ) :
    (t.put row).contains k = true ↔ t.contains k = true ∨ Keyed.key row = k := by
  simp only [contains_iff, find?_put]
  split_ifs with h
  · simp [h]
  · simp [h]

/-- Two rows of one table with one key are the same row. -/
theorem eq_of_key_eq {t : Table α} {r s : α} (hr : r ∈ t.rows) (hs : s ∈ t.rows)
    (h : Keyed.key r = Keyed.key s) : r = s := by
  have hf := mem_rows_iff.1 hr
  rw [h, mem_rows_iff.1 hs] at hf
  exact (Option.some.inj hf).symm

theorem putRow_eq_append {row : α} {rs : List α} (h : ∀ r ∈ rs, Keyed.key r ≠ Keyed.key row) :
    putRow row rs = rs ++ [row] := by
  induction rs with
  | nil => rfl
  | cons r rs ih =>
    rw [putRow, if_neg (h r List.mem_cons_self), ih fun s hs => h s (List.mem_cons_of_mem r hs)]
    rfl

theorem putRow_eq_map {row : α} {rs : List α} (hd : (rs.map Keyed.key).Nodup)
    (h : Keyed.key row ∈ rs.map Keyed.key) :
    putRow row rs = rs.map fun r => if Keyed.key r = Keyed.key row then row else r := by
  induction rs with
  | nil => cases h
  | cons r rs ih =>
    obtain ⟨hr, hrs⟩ := List.nodup_cons.1 (List.map_cons ▸ hd)
    by_cases hk : Keyed.key r = Keyed.key row
    · have hrest : ∀ s ∈ rs, (if Keyed.key s = Keyed.key row then row else s) = s := by
        intro s hs
        apply if_neg
        intro he
        exact hr (List.mem_map.2 ⟨s, hs, he.trans hk.symm⟩)
      rw [putRow, if_pos hk, List.map_cons, if_pos hk, List.map_congr_left hrest, List.map_id']
    · have hmem : Keyed.key row ∈ rs.map Keyed.key := by
        rcases List.mem_cons.1 (List.map_cons ▸ h) with he | hm
        · exact (hk he.symm).elim
        · exact hm
      rw [putRow, if_neg hk, List.map_cons, if_neg hk, ih hrs hmem]

/-- A row under a new key goes to the end. -/
theorem rows_put_of_absent {t : Table α} {row : α} (h : t.find? (Keyed.key row) = none) :
    (t.put row).rows = t.rows ++ [row] :=
  putRow_eq_append (find?_eq_none_iff.1 h)

/-- A row under a key that is there takes the place of the old one. -/
theorem rows_put_of_present {t : Table α} {row r : α} (h : t.find? (Keyed.key row) = some r) :
    (t.put row).rows = t.rows.map fun x => if Keyed.key x = Keyed.key row then row else x := by
  obtain ⟨hr, hk⟩ := find?_eq_some_iff.1 h
  exact putRow_eq_map t.distinct (hk ▸ List.mem_map_of_mem hr)

/-- Replacing a row leaves every column alone in which the new row agrees with the old one. -/
theorem map_put_of_present {β : Type} {t : Table α} {row r : α} (f : α → β)
    (h : t.find? (Keyed.key row) = some r) (hf : f row = f r) :
    (t.put row).rows.map f = t.rows.map f := by
  rw [rows_put_of_present h, List.map_map]
  apply List.map_congr_left
  intro x hx
  simp only [Function.comp_apply]
  split_ifs with hk
  · have hxr := mem_rows_iff.1 hx
    rw [hk, h] at hxr
    rw [hf, Option.some.inj hxr]
  · rfl

/-- Of two rows put under one key, the second is there. -/
theorem put_put (t : Table α) {row row' : α} (h : Keyed.key row' = Keyed.key row) :
    (t.put row).put row' = t.put row' := by
  have hrows : ∀ rs : List α, putRow row' (putRow row rs) = putRow row' rs := by
    intro rs
    induction rs with
    | nil => simp [putRow, h]
    | cons r rs ih =>
      by_cases hr : Keyed.key r = Keyed.key row
      · simp [putRow, h, hr]
      · simp [putRow, h, hr, ih]
  exact ext_rows (hrows t.rows)

theorem find?_mapRows (t : Table α) (f : α → α) (hf : ∀ r, Keyed.key (f r) = Keyed.key r) (k : κ) :
    (t.mapRows f hf).find? k = (t.find? k).map f := by
  cases h : t.find? k with
  | some r =>
    obtain ⟨hr, hk⟩ := find?_eq_some_iff.1 h
    exact find?_eq_some_iff.2 ⟨List.mem_map_of_mem hr, (hf r).trans hk⟩
  | none =>
    apply find?_eq_none_iff.2
    intro s hs
    obtain ⟨r, hr, rfl⟩ := List.mem_map.1 hs
    rw [hf]
    exact find?_eq_none_iff.1 h r hr

/-- Putting changed rows back one after the other changes exactly the listed rows, in place. -/
theorem rows_putAll_map [DecidableEq α] (t : Table α) (l : List α) (g : α → α)
    (hg : ∀ r, Keyed.key (g r) = Keyed.key r) (hl : ∀ r ∈ l, r ∈ t.rows)
    (hd : (l.map Keyed.key).Nodup) :
    (t.putAll (l.map g)).rows = t.rows.map fun r => if r ∈ l then g r else r := by
  induction l generalizing t with
  | nil => simp [putAll]
  | cons a l ih =>
    obtain ⟨ha, hld⟩ := List.nodup_cons.1 (List.map_cons ▸ hd)
    have hat : a ∈ t.rows := hl a List.mem_cons_self
    have hfind : t.find? (Keyed.key (g a)) = some a := by rw [hg, mem_rows_iff.1 hat]
    have hkeys : ∀ r ∈ l, Keyed.key r ≠ Keyed.key a := by
      intro r hr he
      exact ha (he ▸ List.mem_map_of_mem hr)
    have hl' : ∀ r ∈ l, r ∈ (t.put (g a)).rows := by
      intro r hr
      refine mem_rows_put.2 (.inr ⟨hl r (List.mem_cons_of_mem a hr), ?_⟩)
      rw [hg]
      exact hkeys r hr
    have hga : g a ∉ l := fun hm => hkeys (g a) hm (hg a)
    change ((t.put (g a)).putAll (l.map g)).rows = _
    rw [ih (t.put (g a)) hl' hld, rows_put_of_present hfind, List.map_map]
    apply List.map_congr_left
    intro r hr
    simp only [Function.comp_apply, hg]
    by_cases hra : r = a
    · subst hra
      simp [hga]
    · have hk : Keyed.key r ≠ Keyed.key a := fun he => hra (eq_of_key_eq hr hat he)
      simp [hk, hra]

/-- A sum over the rows, with one row put in the place of another. -/
theorem sum_put {t : Table α} {row r : α} (h : t.find? (Keyed.key row) = some r) (f : α → Nat) :
    ((t.put row).rows.map f).sum + f r = (t.rows.map f).sum + f row := by
  obtain ⟨rs, hd⟩ := t
  have hr : rs.find? (fun x => decide (Keyed.key x = Keyed.key row)) = some r := h
  change ((putRow row rs).map f).sum + f r = (rs.map f).sum + f row
  clear h hd
  induction rs with
  | nil => cases hr
  | cons x rs ih =>
    rw [List.find?_cons] at hr
    by_cases hx : Keyed.key x = Keyed.key row
    · simp only [hx, decide_true, Option.some.injEq] at hr
      subst hr
      simp only [putRow, hx, if_true, List.map_cons, List.sum_cons]
      omega
    · simp only [hx, decide_false] at hr
      simp only [putRow, hx, if_false, List.map_cons, List.sum_cons]
      have hrest := ih hr
      omega

/-- A sum over the rows, with some of them changed in place. -/
theorem sum_putAll_map (t : Table α) (l : List α) (g : α → α)
    (hg : ∀ r, Keyed.key (g r) = Keyed.key r) (hl : ∀ r ∈ l, r ∈ t.rows)
    (hd : (l.map Keyed.key).Nodup) (f : α → Nat) :
    ((t.putAll (l.map g)).rows.map f).sum + (l.map f).sum =
      (t.rows.map f).sum + (l.map fun r => f (g r)).sum := by
  induction l generalizing t with
  | nil => rfl
  | cons a l ih =>
    obtain ⟨ha, hld⟩ := List.nodup_cons.1 (List.map_cons ▸ hd)
    have hfind : t.find? (Keyed.key (g a)) = some a := by
      rw [hg, mem_rows_iff.1 (hl a List.mem_cons_self)]
    have hl' : ∀ r ∈ l, r ∈ (t.put (g a)).rows := by
      intro r hr
      refine mem_rows_put.2 (.inr ⟨hl r (List.mem_cons_of_mem a hr), ?_⟩)
      rw [hg]
      exact fun he => ha (he ▸ List.mem_map_of_mem hr)
    have hrest := ih (t.put (g a)) hl' hld
    have hfirst := sum_put hfind f
    change (((t.put (g a)).putAll (l.map g)).rows.map f).sum + _ = _
    simp only [List.map_cons, List.sum_cons]
    omega

/-- Rows come from the table or from the list. -/
theorem mem_rows_putAll {t : Table α} {l : List α} {r : α} (h : r ∈ (t.putAll l).rows) :
    r ∈ t.rows ∨ r ∈ l := by
  induction l generalizing t with
  | nil => exact .inl h
  | cons a l ih =>
    rcases ih h with hr | hr
    · rcases mem_rows_put.1 hr with rfl | ⟨hr, -⟩
      · exact .inr List.mem_cons_self
      · exact .inl hr
    · exact .inr (List.mem_cons_of_mem a hr)

/-- The rows of another table are found first. -/
theorem find?_putAll (t u : Table α) (k : κ) :
    (t.putAll u.rows).find? k = (u.find? k).or (t.find? k) := by
  obtain ⟨rows, hd⟩ := u
  change (t.putAll rows).find? k = (rows.find? fun r => decide (Keyed.key r = k)).or (t.find? k)
  induction rows generalizing t with
  | nil => rfl
  | cons a rows ih =>
    obtain ⟨ha, hrest⟩ := List.nodup_cons.1 (List.map_cons ▸ hd)
    change ((t.put a).putAll rows).find? k = _
    rw [ih (t.put a) hrest, find?_put, List.find?_cons]
    by_cases hk : Keyed.key a = k
    · -- A row further on with the key would be a second one.
      have hnone : (rows.find? fun r => decide (Keyed.key r = k)) = none := by
        refine List.find?_eq_none.2 fun r hr he => ha ?_
        rw [hk, ← of_decide_eq_true he]
        exact List.mem_map_of_mem hr
      simp [hk, hnone]
    · simp [hk]

/-- Rows under keys that are new and pairwise different are all appended. -/
theorem rows_putAll_of_absent {t : Table α} {l : List α}
    (h : ∀ r ∈ l, t.find? (Keyed.key r) = none) (hd : (l.map Keyed.key).Nodup) :
    (t.putAll l).rows = t.rows ++ l := by
  induction l generalizing t with
  | nil => simp [putAll]
  | cons a l ih =>
    obtain ⟨ha, hld⟩ := List.nodup_cons.1 (List.map_cons ▸ hd)
    have hrest : ∀ r ∈ l, (t.put a).find? (Keyed.key r) = none := by
      intro r hr
      rw [find?_put, if_neg, h r (List.mem_cons_of_mem a hr)]
      intro he
      exact ha (he ▸ List.mem_map_of_mem hr)
    change ((t.put a).putAll l).rows = _
    rw [ih hrest hld, rows_put_of_absent (h a List.mem_cons_self), List.append_assoc]
    rfl

end BoardActivity.Table
