import BoardActivity.Proofs.Timestamps
import BoardActivity.Wire.Deliveries

/-!
# Values read back

`Wire.Lawful` says of a type that its values are read back from their forms, for those values that
the program has; and that no others are ever read. It is shown here of the parts of records:
identifiers have 128 bits, instants lie in the calendar, and a span has a form of its own only if it
is a whole number of milliseconds. Texts, flags, constants and sets of actions are all lawful.

`Json.Alike` relates two objects that a reader cannot tell apart: they differ in members that it
does not ask for, or in a default that one of them spells out.
-/

namespace BoardActivity

/-! ### Members of an object -/

namespace Json

variable {β : Type} {P : β → Prop} {read : Json → Option β} {name : String} {j : Json}

theorem of_required {b : β} (hread : ∀ {j b}, read j = some b → P b)
    (h : j.required name read = some b) : P b := by
  obtain ⟨v, -, hv⟩ := Option.bind_eq_some_iff.1 h
  exact hread hv

theorem of_optional {a : Option β} (hread : ∀ {j b}, read j = some b → P b)
    (h : j.optional name read = some a) : ∀ b, a = some b → P b := by
  unfold optional at h
  split at h
  · cases h
    intro b hb
    cases hb
  · obtain ⟨b, hb, rfl⟩ := Option.map_eq_some_iff.1 h
    rintro _ ⟨⟩
    exact hread hb

theorem of_withDefault {default b : β} (hdefault : P default)
    (hread : ∀ {j b}, read j = some b → P b) (h : j.withDefault name default read = some b) :
    P b := by
  unfold withDefault at h
  split at h
  · cases h
    exact hdefault
  · exact hread h

theorem optional_of_lookup {write : β → Json} {a : Option β} {ms : List (String × Json)}
    (hnull : read null = none) (hread : ∀ b, a = some b → read (write b) = some b)
    (hm : ms.lookup name = some (ofOption write a)) :
    (object ms).optional name read = some a := by
  simp only [optional, present?, member?, hm]
  cases a with
  | none => rfl
  | some b =>
      have hb := hread b rfl
      rw [ofOption]
      generalize write b = v at hb
      cases v with
      | null =>
          rw [hnull] at hb
          cases hb
      | _ => simp only [hb, Option.map_some]

theorem below?_ofNat {n bound : Nat} (h : n < bound) : (ofNat n).below? bound = some n := by
  simp only [ofNat, below?]
  rw [if_pos (by omega), Int.toNat_natCast]

theorem lt_of_below? {n bound : Nat} (h : j.below? bound = some n) : n < bound := by
  unfold below? at h
  split at h
  · split_ifs at h
    cases h
    omega
  · cases h

theorem required_below? (name : String) {n bound : Nat} (h : n < bound)
    ⦃ms : List (String × Json)⦄ (hm : ms.lookup name = some (ofNat n)) :
    (object ms).required name (below? bound) = some n := by
  simp only [required, member?, hm, Option.bind_some, below?_ofNat h]

theorem optional_below? (name : String) {a : Option Nat} {bound : Nat}
    (h : ∀ n, a = some n → n < bound) ⦃ms : List (String × Json)⦄
    (hm : ms.lookup name = some (ofOption ofNat a)) :
    (object ms).optional name (below? bound) = some a :=
  optional_of_lookup rfl (fun n hn => below?_ofNat (h n hn)) hm

theorem lt_of_required_below? {n bound : Nat} (h : j.required name (below? bound) = some n) :
    n < bound :=
  of_required (P := fun n => n < bound) lt_of_below? h

theorem lt_of_optional_below? {a : Option Nat} {bound : Nat}
    (h : j.optional name (below? bound) = some a) : ∀ n, a = some n → n < bound :=
  of_optional (P := fun n => n < bound) lt_of_below? h

/-- An object is read by its members. The proof is no `rfl`: the simplifier would leave such a step
to the kernel, which then reads the whole record. -/
theorem record?_object_bind (names : List String) (least : Nat) (ms : List (String × Json))
    (f : Json → Option β) : ((object ms).record? names least >>= f) = f (object ms) := by
  simp only [record?, Option.bind_eq_bind, Option.bind_some]

theorem withDefault_of_lookup {v : Json} {ms : List (String × Json)}
    (hm : ms.lookup name = some v) (default : β) (read : Json → Option β) :
    (object ms).withDefault name default read = read v := by
  simp only [withDefault, member?, hm]

/-! ### Objects that say the same -/

/-- Two objects say the same under the given names, where a default stands for what is absent. -/
def Alike (names : List String) (defaults ms ms' : List (String × Json)) : Prop :=
  ∀ name ∈ names, (ms.lookup name).or (defaults.lookup name) =
    (ms'.lookup name).or (defaults.lookup name)

namespace Alike

variable {names : List String} {defaults ms ms' : List (String × Json)}

theorem required (h : Alike names defaults ms ms') (hn : name ∈ names)
    (hd : defaults.lookup name = none) :
    (object ms).required name read = (object ms').required name read := by
  have hlookup := h name hn
  simp only [hd, Option.or_none] at hlookup
  simp only [Json.required, member?, hlookup]

theorem field {α : Type} [Wire α] (h : Alike names defaults ms ms') (hn : name ∈ names)
    (hd : defaults.lookup name = none) :
    ((object ms).field name : Option α) = (object ms').field name :=
  h.required hn hd

theorem optional (h : Alike names defaults ms ms') (hn : name ∈ names)
    (hd : defaults.lookup name = some null) :
    (object ms).optional name read = (object ms').optional name read := by
  have hpresent : ∀ ms : List (String × Json), (object ms).present? name =
      (object [(name, (ms.lookup name).getD null)]).present? name := by
    intro ms
    simp only [present?, member?, List.lookup_cons_self]
    cases ms.lookup name <;> rfl
  have hlookup := h name hn
  rw [hd, Option.or_some, Option.or_some, Option.some_inj] at hlookup
  simp only [Json.optional, hpresent ms, hpresent ms', hlookup]

theorem withDefault {default : β} (h : Alike names defaults ms ms') (hn : name ∈ names)
    (hd : (defaults.lookup name).bind read = some default) :
    (object ms).withDefault name default read = (object ms').withDefault name default read := by
  have hread : ∀ ms : List (String × Json), (object ms).withDefault name default read =
      ((ms.lookup name).or (defaults.lookup name)).bind read := by
    intro ms
    simp only [Json.withDefault, member?]
    cases ms.lookup name with
    | none => exact hd.symm
    | some v => rfl
  rw [hread, hread, h name hn]

/-- Members of other names say nothing. -/
theorem filter (names : List String) (defaults ms : List (String × Json)) :
    Alike names defaults (ms.filter fun m => m.1 ∈ names) ms := by
  intro name hn
  suffices hlookup : (ms.filter fun m => m.1 ∈ names).lookup name = ms.lookup name by rw [hlookup]
  induction ms with
  | nil => rfl
  | cons m ms ih =>
      by_cases hm : m.1 ∈ names
      · rw [List.filter_cons_of_pos (by simpa using hm), List.lookup_cons, List.lookup_cons, ih]
      · have hne : (name == m.1) = false := beq_false_of_ne fun heq => hm (heq ▸ hn)
        rw [List.filter_cons_of_neg (by simpa using hm), List.lookup_cons, hne, ih]

/-- Spelling out a default says nothing new. -/
theorem cons {d : String × Json} (hd : defaults.lookup d.1 = some d.2)
    (habsent : ms.lookup d.1 = none) : Alike names defaults (d :: ms) ms := by
  intro name _
  rw [List.lookup_cons]
  by_cases heq : name = d.1
  · subst heq
    rw [habsent, hd, beq_self_eq_true]
    rfl
  · rw [beq_false_of_ne heq]

end Alike

end Json

namespace Wire

variable {α : Type} [Wire α]

/-! ### Lawful forms -/

/-- The values that fit are read back from their forms, and no other values are ever read. -/
structure Lawful (Fits : α → Prop) : Prop where
  decode?_encode : ∀ {a : α}, Fits a → decode? (encode a) = some a
  fits : ∀ {j : Json} {a : α}, decode? j = some a → Fits a

namespace Lawful

theorem of_all (h : ∀ a : α, decode? (encode a) = some a) : Lawful fun _ : α => True :=
  ⟨fun _ => h _, fun _ => trivial⟩

variable {Fits : α → Prop}

theorem field (hα : Lawful Fits) (name : String) {a : α} (ha : Fits a)
    ⦃ms : List (String × Json)⦄ (hm : ms.lookup name = some (encode a)) :
    (Json.object ms).field name = some a := by
  simp only [Json.field, Json.required, Json.member?, hm, Option.bind_some, hα.decode?_encode ha]

theorem of_field (hα : Lawful Fits) {name : String} {j : Json} {a : α}
    (h : j.field name = some a) : Fits a :=
  Json.of_required hα.fits h

theorem withDefault (hα : Lawful Fits) (name : String) {a : α} (ha : Fits a)
    ⦃ms : List (String × Json)⦄ ⦃default : α⦄ (hm : ms.lookup name = some (encode a)) :
    (Json.object ms).withDefault name default decode? = some a := by
  simp only [Json.withDefault, Json.member?, hm, hα.decode?_encode ha]

theorem of_withDefault (hα : Lawful Fits) {name : String} {j : Json} {default a : α}
    (hdefault : Fits default) (h : j.withDefault name default decode? = some a) : Fits a :=
  Json.of_withDefault hdefault hα.fits h

theorem optional (hα : Lawful Fits) (hnull : (decode? .null : Option α) = none) (name : String)
    {a : Option α} (ha : ∀ b, a = some b → Fits b) ⦃ms : List (String × Json)⦄
    (hm : ms.lookup name = some (encodeOption a)) :
    (Json.object ms).optional name decode? = some a :=
  Json.optional_of_lookup hnull (fun b hb => hα.decode?_encode (ha b hb)) hm

theorem of_optional (hα : Lawful Fits) {name : String} {j : Json} {a : Option α}
    (h : j.optional name decode? = some a) : ∀ b, a = some b → Fits b :=
  Json.of_optional hα.fits h

end Lawful

theorem lawful_string : Lawful fun _ : String => True := .of_all fun _ => rfl

theorem lawful_bool : Lawful fun _ : Bool => True := .of_all fun _ => rfl

theorem lawful_userRole : Lawful fun _ : UserRole => True := by
  refine .of_all fun role => ?_
  cases role <;> rfl

theorem lawful_cardStatus : Lawful fun _ : CardStatus => True := by
  refine .of_all fun status => ?_
  cases status <;> rfl

theorem lawful_eventableKind : Lawful fun _ : EventableKind => True := by
  refine .of_all fun kind => ?_
  cases kind <;> rfl

theorem lawful_deliveryState : Lawful fun _ : DeliveryState => True := by
  refine .of_all fun state => ?_
  cases state <;> rfl

theorem lawful_list {Fits : α → Prop} (hα : Lawful Fits) :
    Lawful fun as : List α => ∀ a ∈ as, Fits a where
  decode?_encode {as} has := by
    simp only [decode?, encode, Json.items?, Json.array?, Option.bind_some]
    induction as with
    | nil => rfl
    | cons a as ih =>
        obtain ⟨ha, has⟩ := List.forall_mem_cons.1 has
        simp [List.mapM_cons, hα.decode?_encode ha, ih has]
  fits {j as} h := by
    obtain ⟨items, -, hitems⟩ := Option.bind_eq_some_iff.1 h
    clear h
    induction items generalizing as with
    | nil =>
        cases hitems
        exact List.forall_mem_nil _
    | cons item items ih =>
        simp only [List.mapM_cons, Option.bind_eq_bind, Option.bind_eq_some_iff, Option.pure_def,
          Option.some.injEq] at hitems
        obtain ⟨a, ha, as, has, rfl⟩ := hitems
        exact List.forall_mem_cons.2 ⟨hα.fits ha, ih has⟩

end Wire

def Ident.Fits (u : Ident) : Prop := u.value < pow2 128

def Span.Fits (d : Span) : Prop := ∃ n < pow2 64, d = .ofMillis n

namespace Wire

theorem lawful_ident : Lawful Ident.Fits where
  decode?_encode {u} h := by
    simp only [decode?, encode, Json.string?, Option.bind_some]
    exact Ident.read?_text h
  fits {j u} h := by
    obtain ⟨s, -, hs⟩ := Option.bind_eq_some_iff.1 h
    exact Ident.read?_lt hs

theorem lawful_instant : Lawful Instant.Valid where
  decode?_encode {t} h := by
    simp only [decode?, encode, Json.string?, Option.bind_some]
    exact Time.read?_text h
  fits {j t} h := by
    obtain ⟨s, -, hs⟩ := Option.bind_eq_some_iff.1 h
    exact Time.valid_of_read? hs

theorem lawful_span : Lawful Span.Fits where
  decode?_encode {d} h := by
    obtain ⟨n, hn, rfl⟩ := h
    have hmillis : (Span.ofMillis n).millis = n := Nat.mul_div_cancel n (by decide)
    simp only [decode?, encode, hmillis, Json.below?_ofNat hn, Option.map_some]
  fits {j d} h := by
    obtain ⟨n, hn, rfl⟩ := Option.map_eq_some_iff.1 h
    exact ⟨n, Json.lt_of_below? hn, rfl⟩

theorem lawful_actionSet : Lawful fun _ : ActionSet => True := by
  refine .of_all fun s => ?_
  have hnames := (lawful_list lawful_string).decode?_encode (a := s.names) fun _ _ => trivial
  delta instWireActionSet
  simp only [hnames, Option.map_some, ActionSet.ofList_names]

end Wire

end BoardActivity
