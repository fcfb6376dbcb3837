/-!
# Sets of actions

The actions that a webhook subscribes to, or that a dispatcher permits: a strictly increasing list
of names. Order and repetition of what a set is made from do not matter (`mem_ofList`).
-/

namespace BoardActivity

structure ActionSet where
  names : List String
  increasing : names.Pairwise (· < ·)
deriving Repr, DecidableEq

namespace ActionSet

/-- Puts a name at its place, unless it is there. -/
def insertName (a : String) : List String → List String
  | [] => [a]
  | b :: bs => if a < b then a :: b :: bs else if a = b then b :: bs else b :: insertName a bs

theorem mem_insertName {a x : String} {l : List String} :
    x ∈ insertName a l ↔ x = a ∨ x ∈ l := by
  induction l with
  | nil => simp [insertName]
  | cons b bs ih =>
    unfold insertName
    split
    · simp
    · split
      · subst a; simp
      · simp only [List.mem_cons, ih]
        grind

theorem pairwise_insertName {a : String} {l : List String} (h : l.Pairwise (· < ·)) :
    (insertName a l).Pairwise (· < ·) := by
  induction l with
  | nil => simp [insertName]
  | cons b bs ih =>
    obtain ⟨hb, hbs⟩ := List.pairwise_cons.1 h
    unfold insertName
    split
    next hab =>
      refine List.pairwise_cons.2 ⟨fun x hx => ?_, h⟩
      rcases List.mem_cons.1 hx with rfl | hx
      · exact hab
      · exact String.lt_trans hab (hb x hx)
    next hab =>
      split
      · exact h
      next hne =>
        refine List.pairwise_cons.2 ⟨fun x hx => ?_, ih hbs⟩
        rcases mem_insertName.1 hx with rfl | hx
        · grind
        · exact hb x hx

def empty : ActionSet := ⟨[], .nil⟩

def insert (a : String) (s : ActionSet) : ActionSet :=
  ⟨insertName a s.names, pairwise_insertName s.increasing⟩

def ofList (names : List String) : ActionSet := names.foldr insert empty

instance : Membership String ActionSet := ⟨fun s a => a ∈ s.names⟩
instance (a : String) (s : ActionSet) : Decidable (a ∈ s) :=
  inferInstanceAs (Decidable (a ∈ s.names))

theorem mem_insert {a x : String} {s : ActionSet} : x ∈ s.insert a ↔ x = a ∨ x ∈ s :=
  mem_insertName

theorem mem_ofList {x : String} {l : List String} : x ∈ ofList l ↔ x ∈ l := by
  induction l with
  | nil => simp [ofList, empty, Membership.mem]
  | cons a l ih =>
    have h : ofList (a :: l) = (ofList l).insert a := rfl
    rw [h, mem_insert, ih, List.mem_cons]

theorem insertName_of_lt {a : String} {l : List String} (h : ∀ b ∈ l, a < b) :
    insertName a l = a :: l := by
  cases l with
  | nil => rfl
  | cons b bs => rw [insertName, if_pos (h b List.mem_cons_self)]

theorem eq_of_names {s t : ActionSet} (h : s.names = t.names) : s = t := by
  cases s
  cases t
  cases h
  rfl

/-- A set is made again from its names. -/
theorem ofList_names (s : ActionSet) : ofList s.names = s := by
  have hnames : ∀ l : List String, l.Pairwise (· < ·) → (ofList l).names = l := by
    intro l hl
    induction hl with
    | nil => rfl
    | @cons a l ha _ ih =>
      have hinsert : (ofList (a :: l)).names = insertName a (ofList l).names := rfl
      rw [hinsert, ih, insertName_of_lt ha]
  exact eq_of_names (hnames s.names s.increasing)

/-- The least name of the set that is not in a list. -/
def firstOutside? (s : ActionSet) (allowed : List String) : Option String :=
  s.names.find? fun a => a ∉ allowed

end ActionSet

end BoardActivity
