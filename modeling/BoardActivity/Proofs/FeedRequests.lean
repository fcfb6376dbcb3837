import BoardActivity.Proofs.FeedDescriptions

/-!
# Requests for the feed

Where the feed of a board is asked for: the target that is written for a board, a viewer and a limit
is read back as just these (`Feed.asks_address`), provided that they fit what is read, 128 bits of
an identifier and 64 bits of a number. Targets can be written in many other ways; whatever is read
from one of them, the answer depends on that alone.

An escape is a percent sign, so text without one is not changed by undoing escapes.
-/

namespace BoardActivity

namespace Text

/-- A character that is neither a separator nor part of an escape. -/
def isPlain (c : Char) : Bool :=
  ('0' ≤ c && c ≤ '9') || ('a' ≤ c && c ≤ 'z') || c == '-' || c == '_'

theorem isPlain_digitChar : ∀ {d : Nat}, d < 16 → isPlain d.digitChar = true := by
  decide

theorem ascii_of_isPlain {c : Char} (h : isPlain c = true) : c.val.toNat ≤ 127 := by
  simp only [isPlain, Bool.or_eq_true, Bool.and_eq_true, decide_eq_true_eq, beq_iff_eq] at h
  rcases h with ((⟨-, hc⟩ | ⟨-, hc⟩) | rfl) | rfl
  · exact (UInt32.le_iff_toNat_le.1 hc).trans (by decide)
  · exact (UInt32.le_iff_toNat_le.1 hc).trans (by decide)
  · decide
  · decide

theorem percentDecode_cons {b : UInt8} (hb : b ≠ 37) (bytes : List UInt8) :
    percentDecode (b :: bytes) = b :: percentDecode bytes := by
  match bytes with
  | [] => rfl
  | [_] => rfl
  | _ :: _ :: _ => simp [percentDecode, hb]

theorem percentDecode_of_not_mem {bytes : List UInt8} (h : 37 ∉ bytes) :
    percentDecode bytes = bytes := by
  induction bytes with
  | nil => rfl
  | cons b bytes ih =>
      rw [List.mem_cons, not_or] at h
      rw [percentDecode_cons (Ne.symm h.1), ih h.2]

theorem toList_loop (bytes : ByteArray) (i : Nat) (r : List UInt8) :
    ByteArray.toList.loop bytes i r = r.reverse ++ bytes.data.toList.drop i := by
  fun_induction ByteArray.toList.loop bytes i r with
  | case1 i r hi ih =>
      have hlt : i < bytes.data.toList.length := hi
      have hget : bytes.get! i = bytes.data.toList[i] := by
        rw [ByteArray.get!, getElem!_pos bytes.data i hi, Array.getElem_toList]
      rw [ih, List.reverse_cons, List.append_assoc, hget, List.drop_eq_getElem_cons hlt]
      rfl
  | case2 i r hi =>
      have hle : bytes.data.toList.length ≤ i := Nat.not_lt.1 hi
      rw [List.drop_eq_nil_of_le hle, List.append_nil]

/-- Plain text has no escapes. -/
theorem unescape?_of_plain {cs : List Char} (h : ∀ c ∈ cs, isPlain c = true) :
    unescape? (String.ofList cs) = some (String.ofList cs) := by
  let s := String.ofList cs
  have hbytes : s.toUTF8.toList = s.toUTF8.data.toList := by
    rw [ByteArray.toList, toList_loop]
    rfl
  have hdata : s.toUTF8.data.toList = cs.flatMap String.utf8EncodeChar := by
    simp [s, List.utf8Encode]
  have hplain : 37 ∉ s.toUTF8.toList := by
    rw [hbytes, hdata, List.mem_flatMap]
    rintro ⟨c, hc, hmem⟩
    have hascii := ascii_of_isPlain (h c hc)
    rw [String.utf8EncodeChar, if_pos hascii, List.mem_singleton] at hmem
    have hcode : c.val.toNat = 37 := by
      have hbyte := congrArg UInt8.toNat hmem
      rw [UInt8.toNat_ofNat_of_lt' (Nat.lt_of_le_of_lt hascii (by decide))] at hbyte
      exact hbyte.symm
    have hpercent : c = '%' := Char.ext (UInt32.toNat.inj hcode)
    exact absurd (hpercent ▸ h c hc) (by decide)
  unfold unescape?
  rw [percentDecode_of_not_mem hplain, hbytes]
  exact dif_pos s.isValidUTF8

theorem plain_of_mem_text {u : Ident} {c : Char} (hc : c ∈ u.text.toList) : isPlain c = true := by
  rcases Ident.digit_of_mem_text hc with rfl | ⟨d, hd, rfl⟩
  · decide
  · exact isPlain_digitChar hd

theorem plain_of_mem_repr {n : Nat} {c : Char} (hc : c ∈ n.repr.toList) : isPlain c = true := by
  rw [Nat.toList_repr] at hc
  obtain ⟨d, hd, rfl⟩ := digit_of_mem_toDigits (by decide) hc
  exact isPlain_digitChar (hd.trans (by decide))

/-- A number below the bound is read back. -/
theorem readUnsigned?_repr {bound n : Nat} (h : n < bound) :
    readUnsigned? bound n.repr = some n := by
  have hdecimal : decimal? (Nat.toDigits 10 n) = some n := by
    have hdigits := continueNumber_toDigits (by decide) digit?_digitChar n 0
    rw [Nat.zero_mul, Nat.zero_add] at hdigits
    unfold decimal?
    split
    · next hnil => exact (Nat.toDigits_ne_nil hnil).elim
    · exact hdigits
  have hsign : ∀ cs, Nat.toDigits 10 n ≠ '+' :: cs := by
    intro cs heq
    have hplain : isPlain '+' = true :=
      plain_of_mem_repr (n := n) (Nat.toList_repr ▸ heq ▸ List.mem_cons_self)
    exact absurd hplain (by decide)
  unfold readUnsigned?
  rw [Nat.toList_repr]
  split
  · next cs heq => exact (hsign cs heq).elim
  · simp only [hdecimal, if_pos h]

end Text

namespace Http

open Text (isPlain)

variable {cs : List Char}

theorem formText?_of_plain (h : ∀ c ∈ cs, isPlain c = true) :
    formText? cs = some (String.ofList cs) := by
  have hmap : (cs.map fun c => if c == '+' then ' ' else c) = cs := by
    refine (List.map_congr_left fun c hc => ?_).trans (List.map_id' cs)
    have hplus : c ≠ '+' := fun heq => absurd (heq ▸ h c hc) (by decide)
    rw [if_neg (by simpa using hplus)]
  rw [formText?, hmap]
  exact Text.unescape?_of_plain h

def formOf (fields : List (List Char × List Char)) : List Char :=
  ['&'].intercalate (fields.map fun f => f.1 ++ '=' :: f.2)

/-- The fields of a form are read back in their order. -/
theorem formFields_formOf {fields : List (List Char × List Char)} (hne : fields ≠ [])
    (h : ∀ f ∈ fields, (∀ c ∈ f.1, isPlain c = true) ∧ ∀ c ∈ f.2, isPlain c = true) :
    formFields (formOf fields) =
      fields.map fun f => ⟨some (String.ofList f.1), some (String.ofList f.2)⟩ := by
  have hsplit : (formOf fields).splitOn '&' = fields.map fun f => f.1 ++ '=' :: f.2 := by
    refine List.splitOn_intercalate '&' (fun part hpart => ?_) (by simpa using hne)
    obtain ⟨f, hf, rfl⟩ := List.mem_map.1 hpart
    intro hmem
    rcases List.mem_append.1 hmem with hmem | hmem
    · exact absurd ((h f hf).1 _ hmem) (by decide)
    · rcases List.mem_cons.1 hmem with heq | hmem
      · cases heq
      · exact absurd ((h f hf).2 _ hmem) (by decide)
  unfold formFields
  rw [hsplit, List.filter_map, List.map_map]
  have hall : (fields.filter ((fun part => !part.isEmpty) ∘ fun f => f.1 ++ '=' :: f.2)) = fields :=
    List.filter_eq_self.2 fun f _ => by simp
  rw [hall]
  refine List.map_congr_left fun f hf => ?_
  obtain ⟨hname, hvalue⟩ := h f hf
  have htake : (f.1 ++ '=' :: f.2).takeWhile (· != '=') = f.1 := by
    rw [List.takeWhile_append_of_pos, List.takeWhile_cons_of_neg (by decide), List.append_nil]
    intro c hc
    have hne : c ≠ '=' := fun heq => absurd (heq ▸ hname c hc) (by decide)
    simpa using hne
  have hdrop : (f.1 ++ '=' :: f.2).drop (f.1.length + 1) = f.2 := by
    rw [← List.drop_drop, List.drop_left]
    rfl
  simp only [Function.comp_apply, htake, hdrop, formText?_of_plain hname, formText?_of_plain hvalue]

end Http

namespace Feed

/-- The target is read as asking for the feed of a board, for a viewer and with a limit. -/
def Asks (target : Http.Target) (board viewer : Ident) (limit : Option Nat) : Prop :=
  (∃ segment, Route.ofPath? target.path = some (.boardEvents segment) ∧
    (Http.segmentText? segment).bind Ident.read? = some board) ∧
  readQuery? target.query = some (viewer, limit)

/-- The target that is written for a board, a viewer and a limit. -/
def address (board viewer : Ident) (limit : Option Nat) : Http.Target where
  path := ("/boards/" ++ board.text ++ "/events").toList
  query := ("viewer_id=" ++ viewer.text ++
    match limit with
    | none => ""
    | some n => "&limit=" ++ n.repr).toList

theorem ofPath?_address (board viewer : Ident) (limit : Option Nat) :
    Route.ofPath? (address board viewer limit).path = some (.boardEvents board.text.toList) := by
  have hpath : (address board viewer limit).path =
      ['/'].intercalate [[], "boards".toList, board.text.toList, "events".toList] := by
    simp [address, List.intercalate]
  have hslash : '/' ∉ board.text.toList := fun hm =>
    absurd (Text.plain_of_mem_text hm) (by decide)
  have hsplit : (address board viewer limit).path.splitOn '/' =
      [[], "boards".toList, board.text.toList, "events".toList] := by
    rw [hpath]
    refine List.splitOn_intercalate '/' (fun part hpart => ?_) (List.cons_ne_nil _ _)
    simp only [List.mem_cons, List.not_mem_nil, or_false] at hpart
    rcases hpart with rfl | rfl | rfl | rfl
    · exact List.not_mem_nil
    · decide
    · exact hslash
    · decide
  have hempty : board.text.isEmpty = false := by
    rw [Bool.eq_false_iff, Ne, String.isEmpty_iff, ← String.toList_eq_nil_iff, Ident.text,
      String.toList_ofList]
    simp
  unfold Route.ofPath?
  rw [hsplit]
  simp [hempty]

theorem readQuery?_address (board : Ident) {viewer : Ident} {limit : Option Nat}
    (hviewer : viewer.value < pow2 128) (hlimit : ∀ n, limit = some n → n < pow2 64) :
    readQuery? (address board viewer limit).query = some (viewer, limit) := by
  let fields := ("viewer_id".toList, viewer.text.toList) ::
    (limit.map fun n => ("limit".toList, n.repr.toList)).toList
  have hquery : (address board viewer limit).query = Http.formOf fields := by
    cases limit <;> simp [fields, address, Http.formOf, List.intercalate]
  have hname : "viewer_id".toList.all Text.isPlain = true := by decide
  have hlimitName : "limit".toList.all Text.isPlain = true := by decide
  have htext : ∀ c ∈ viewer.text.toList, Text.isPlain c = true := fun _ => Text.plain_of_mem_text
  have hplain : ∀ f ∈ fields,
      (∀ c ∈ f.1, Text.isPlain c = true) ∧ ∀ c ∈ f.2, Text.isPlain c = true := by
    intro f hf
    rcases List.mem_cons.1 hf with rfl | hf
    · simp only
      exact ⟨List.all_eq_true.1 hname, htext⟩
    · obtain ⟨n, -, rfl⟩ := Option.map_eq_some_iff.1 (Option.mem_toList.1 hf)
      exact ⟨List.all_eq_true.1 hlimitName, fun _ => Text.plain_of_mem_repr⟩
  have hread : Http.formFields (address board viewer limit).query =
      ⟨some "viewer_id", some viewer.text⟩ ::
        (limit.map fun n => (⟨some "limit", some n.repr⟩ : Http.FormField)).toList := by
    rw [hquery, Http.formFields_formOf (List.cons_ne_nil _ _) hplain]
    cases limit with
    | none => simp
    | some n => simp [-Nat.toList_repr]
  unfold readQuery?
  rw [hread]
  cases limit with
  | none => simp [Http.formValue?, Ident.read?_text hviewer]
  | some n =>
      simp [Http.formValue?, Ident.read?_text hviewer, Text.readUnsigned?_repr (hlimit n rfl)]

/-- What is written in a target is read from it. -/
theorem asks_address {board viewer : Ident} {limit : Option Nat} (hboard : board.value < pow2 128)
    (hviewer : viewer.value < pow2 128) (hlimit : ∀ n, limit = some n → n < pow2 64) :
    Asks (address board viewer limit) board viewer limit := by
  refine ⟨⟨_, ofPath?_address board viewer limit, ?_⟩, readQuery?_address board hviewer hlimit⟩
  rw [Http.segmentText?, Text.unescape?_of_plain fun c hc => Text.plain_of_mem_text hc,
    Option.bind_some, String.ofList_toList, Ident.read?_text hboard]

/-- The answer depends on what is read from the target alone. -/
theorem handle_of_asks (source : FeedSource) {target : Http.Target} {board viewer : Ident}
    {limit : Option Nat} (h : Asks target board viewer limit) :
    handle source .get target = respond activityBody (source.activity board viewer limit) := by
  obtain ⟨⟨segment, hpath, hsegment⟩, hquery⟩ := h
  simp only [handle, hpath, answer, hsegment, hquery]

end Feed

end BoardActivity
