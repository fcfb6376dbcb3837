import BoardActivity.Proofs.CalendarDates
import BoardActivity.Time.Timestamp

/-!
# Timestamps read back

An instant is read back from its text, if it lies in the calendar and any leap second in it comes
at the end of a minute (`Time.read?_text`); and nothing else is ever read (`Time.valid_of_read?`).

Each part of the text is followed by a character that is no digit, so a part is read without a look
at what its width is: `takeNumber?_digits` is the one lemma about numbers.
-/

namespace BoardActivity

/-- The instant has a text that stands for it alone: it lies in the calendar, and only the last
second of a minute runs on as a leap second. -/
def Instant.Valid (t : Instant) : Prop :=
  t.inCalendar = true ∧
    (t.nanos < 1000000000 ∨ t.nanos < 2000000000 ∧ t.seconds % 60 = 59)

namespace Time

open Text

/-! ### Parts of a timestamp -/

theorem digit_facts : ∀ {d : Nat}, d < 10 → (digit? d.digitChar).isSome = true ∧
    isBlankChar d.digitChar = false ∧ d.digitChar ≠ '-' ∧ d.digitChar ≠ '+' := by
  decide

theorem padded_eq_cons (width n : Nat) :
    ∃ d ds, d < 10 ∧ (paddedDecimal width n).toList = d.digitChar :: ds := by
  cases hds : (paddedDecimal width n).toList with
  | nil =>
      have hread := decimal?_paddedDecimal width n
      rw [hds] at hread
      cases hread
  | cons x ds =>
      have hx : x ∈ (paddedDecimal width n).toList := hds ▸ List.mem_cons_self
      obtain ⟨d, hd, rfl⟩ := digit_of_mem_paddedDecimal hx
      exact ⟨d, ds, hd, rfl⟩

theorem takeWhile_digits {ds : List Char} {c : Char} (rest : List Char)
    (hds : ∀ x ∈ ds, (digit? x).isSome = true) (hc : digit? c = none) :
    (ds ++ c :: rest).takeWhile (fun x => (digit? x).isSome) = ds := by
  rw [List.takeWhile_append_of_pos hds, List.takeWhile_cons_of_neg (by simp [hc]), List.append_nil]

/-- Digits up to a character that is none are read as their number. -/
theorem takeNumber?_digits {width n : Nat} {ds : List Char} {c : Char} (rest : List Char)
    (hds : ∀ x ∈ ds, (digit? x).isSome = true) (hn : decimal? ds = some n)
    (hwidth : ds.length ≤ width) (hc : digit? c = none) :
    takeNumber? width (ds ++ c :: rest) = some (n, c :: rest) := by
  have hstop : ∀ k, ((c :: rest).take k).takeWhile (fun x => (digit? x).isSome) = [] := by
    intro k
    cases k with
    | zero => rfl
    | succ k => simp [hc]
  have htake : ((ds ++ c :: rest).take width).takeWhile (fun x => (digit? x).isSome) = ds := by
    rw [List.take_append, List.take_of_length_le hwidth, List.takeWhile_append_of_pos hds, hstop,
      List.append_nil]
  simp only [takeNumber?, htake, hn, Option.map_some, List.drop_left]

theorem digits_padded (width n : Nat) :
    ∀ x ∈ (paddedDecimal width n).toList, (digit? x).isSome = true := by
  intro x hx
  obtain ⟨d, hd, rfl⟩ := digit_of_mem_paddedDecimal hx
  exact (digit_facts hd).1

theorem takeNumber?_padded {width n : Nat} {c : Char} (rest : List Char) (hw : 0 < width)
    (hn : n < Nat.pow 10 width) (hc : digit? c = none) :
    takeNumber? width ((paddedDecimal width n).toList ++ c :: rest) = some (n, c :: rest) :=
  takeNumber?_digits rest (digits_padded width n) (decimal?_paddedDecimal width n)
    (length_paddedDecimal hw hn).le hc

/-- No blank stands before a number. -/
theorem trimStart_padded (width n : Nat) (cs : List Char) :
    trimStart ((paddedDecimal width n).toList ++ cs) = (paddedDecimal width n).toList ++ cs := by
  obtain ⟨d, ds, hd, hdigits⟩ := padded_eq_cons width n
  rw [hdigits, List.cons_append, trimStart, List.dropWhile_cons_of_neg]
  simp [(digit_facts hd).2.1]

theorem takeField?_padded {n : Nat} {c : Char} (rest : List Char) (hn : n < 100)
    (hc : digit? c = none) :
    takeField? 2 ((paddedDecimal 2 n).toList ++ c :: rest) = some (n, c :: rest) := by
  rw [takeField?, trimStart_padded]
  exact takeNumber?_padded rest (by decide) hn hc

theorem takeYear?_yearText (y : Int) (rest : List Char) :
    takeYear? ((yearText y).toList ++ '-' :: rest) = some (y, '-' :: rest) := by
  have hsigned : takeNumber? ((paddedDecimal 4 y.natAbs).toList ++ '-' :: rest).length
      ((paddedDecimal 4 y.natAbs).toList ++ '-' :: rest) = some (y.natAbs, '-' :: rest) :=
    takeNumber?_digits rest (digits_padded _ _) (decimal?_paddedDecimal _ _) (by simp) (by decide)
  unfold yearText
  split_ifs with hplain hneg
  · have hnumber : takeNumber? 4 ((paddedDecimal 4 y.toNat).toList ++ '-' :: rest) =
        some (y.toNat, '-' :: rest) :=
      takeNumber?_padded rest (by decide)
        (show y.toNat < 10 ^ 4 by omega) (by decide)
    have hy : (y.toNat : Int) = y := by omega
    obtain ⟨d, ds, hd, hdigits⟩ := padded_eq_cons 4 y.toNat
    unfold takeYear?
    rw [trimStart_padded]
    split
    · next heq =>
        rw [hdigits] at heq
        exact ((digit_facts hd).2.2.1 (List.cons.inj heq).1).elim
    · next heq =>
        rw [hdigits] at heq
        exact ((digit_facts hd).2.2.2 (List.cons.inj heq).1).elim
    · simp only [hnumber, Option.map_some, hy]
  · have hy : -(y.natAbs : Int) = y := by omega
    have hshape : ("-" ++ paddedDecimal 4 y.natAbs).toList ++ '-' :: rest =
        '-' :: ((paddedDecimal 4 y.natAbs).toList ++ '-' :: rest) := by simp
    have htrim : ∀ cs, trimStart ('-' :: cs) = '-' :: cs := fun cs => rfl
    rw [hshape, takeYear?, htrim]
    simp only [hsigned, Option.map_some, hy]
  · have hy : (y.natAbs : Int) = y := by omega
    have hshape : ("+" ++ paddedDecimal 4 y.natAbs).toList ++ '-' :: rest =
        '+' :: ((paddedDecimal 4 y.natAbs).toList ++ '-' :: rest) := by simp
    have htrim : ∀ cs, trimStart ('+' :: cs) = '+' :: cs := fun cs => rfl
    rw [hshape, takeYear?, htrim]
    simp only [hsigned, Option.map_some, hy]

theorem takeFraction?_padded {width n : Nat} (hw : 0 < width) (hwidth : width ≤ 9)
    (hn : n < Nat.pow 10 width) (rest : List Char) :
    takeFraction? (("." ++ paddedDecimal width n).toList ++ 'Z' :: rest) =
      some (n * pow10 (9 - width), 'Z' :: rest) := by
  have hshape : ("." ++ paddedDecimal width n).toList ++ 'Z' :: rest =
      '.' :: ((paddedDecimal width n).toList ++ 'Z' :: rest) := by simp
  have hlength := length_paddedDecimal hw hn
  have hnine : (paddedDecimal width n).toList.take 9 = (paddedDecimal width n).toList :=
    List.take_of_length_le (hlength.trans_le hwidth)
  rw [hshape]
  have hend : digit? 'Z' = none := by decide
  simp only [takeFraction?, takeWhile_digits rest (digits_padded width n) hend, hnine,
    decimal?_paddedDecimal, hlength, Option.map_some, List.drop_left' hlength]

/-- The digits that are left out when a fraction is written are zeros. -/
theorem takeFraction?_fractionText {n : Nat} (hn : n < 1000000000) (rest : List Char) :
    takeFraction? ((fractionText n).toList ++ 'Z' :: rest) = some (n, 'Z' :: rest) := by
  unfold fractionText
  split_ifs with hzero hmillis hmicros
  · rw [hzero]
    rfl
  · rw [takeFraction?_padded (by decide) (by decide) (show n / 1000000 < 10 ^ 3 by omega)]
    have hpow : pow10 (9 - 3) = 1000000 := rfl
    rw [hpow, show n / 1000000 * 1000000 = n by omega]
  · rw [takeFraction?_padded (by decide) (by decide) (show n / 1000 < 10 ^ 6 by omega)]
    have hpow : pow10 (9 - 6) = 1000 := rfl
    rw [hpow, show n / 1000 * 1000 = n by omega]
  · rw [takeFraction?_padded (by decide) (by decide) (show n < 10 ^ 9 by omega)]
    have hpow : pow10 (9 - 9) = 1 := rfl
    rw [hpow, Nat.mul_one]

/-- Seconds are followed by a point or by the zone. -/
theorem fractionText_eq_cons (n : Nat) (rest : List Char) :
    ∃ c cs, (fractionText n).toList ++ 'Z' :: rest = c :: cs ∧ digit? c = none := by
  unfold fractionText
  split_ifs
  · exact ⟨'Z', rest, rfl, by decide⟩
  all_goals exact ⟨'.', _, by simp only [String.toList_append]; rfl, by decide⟩

/-! ### Written and read -/

/-- What is written in the right order, of the right date and time, is read; `leap` is the second by
which the last one of the minute runs on. -/
theorem read?_parts {s : String} {date : Date} {hour minute second n : Nat} {t : Instant}
    (leap : Nat)
    (hs : s.toList = (yearText date.year).toList ++ '-' :: ((paddedDecimal 2 date.month).toList ++
      '-' :: ((paddedDecimal 2 date.day).toList ++ 'T' :: ((paddedDecimal 2 hour).toList ++
      ':' :: ((paddedDecimal 2 minute).toList ++ ':' :: ((paddedDecimal 2 second).toList ++
      ((fractionText n).toList ++ ['Z'])))))))
    (hdate : date.isValid = true) (hfirst : Instant.firstYear ≤ date.year)
    (hlast : date.year ≤ Instant.lastYear) (hhour : hour ≤ 23) (hminute : minute ≤ 59)
    (hsecond : second ≤ 60) (hn : n < 1000000000) (hleap : leap = if second = 60 then 1 else 0)
    (ht : t = ⟨date.toDays * 86400 + (hour * 3600 + minute * 60 + (second - leap) : Nat),
      leap * 1000000000 + n⟩)
    (hcalendar : t.inCalendar = true) : read? s = some t := by
  obtain ⟨hmonth, hday⟩ := Date.isValid_bounds hdate
  obtain ⟨c, cs, hfraction, hc⟩ := fractionText_eq_cons n []
  have hdash : ∀ cs, expect? '-' (trimStart ('-' :: cs)) = some cs := fun _ => rfl
  have hcolon : ∀ cs, expect? ':' (trimStart (':' :: cs)) = some cs := fun _ => rfl
  have hzone : takeZone? (trimStart ['Z']) = some (0, []) := rfl
  have hdashDigit : digit? '-' = none := by decide
  have hcolonDigit : digit? ':' = none := by decide
  have htDigit : digit? 'T' = none := by decide
  have hbind {α β : Type} (a : α) (f : α → Option β) : (some a >>= f) = f a := rfl
  unfold read?
  rw [hs, takeYear?_yearText, hbind]
  dsimp only
  rw [hdash, hbind, takeField?_padded _ (by omega) hdashDigit, hbind]
  dsimp only
  rw [hdash, hbind, takeField?_padded _ (by omega) htDigit, hbind]
  dsimp only
  rw [if_pos (.inl rfl), hbind, takeField?_padded _ (by omega) hcolonDigit, hbind]
  dsimp only
  rw [hcolon, hbind, takeField?_padded _ (by omega) hcolonDigit, hbind]
  dsimp only
  rw [hcolon, hbind, hfraction, takeField?_padded _ (by omega) hc, hbind]
  dsimp only
  rw [← hfraction, takeFraction?_fractionText hn, hbind]
  dsimp only
  rw [hzone, hbind]
  dsimp only
  rw [if_pos ⟨rfl, hdate, hfirst, hlast, hhour, hminute, hsecond, by decide⟩, ← hleap, Int.sub_zero,
    ← ht, if_pos hcalendar]

theorem toList_text (t : Instant) :
    let date := Date.ofDays (t.seconds / 86400)
    let sec := t.secondOfDay.toNat
    t.text.toList = (yearText date.year).toList ++ '-' :: ((paddedDecimal 2 date.month).toList ++
      '-' :: ((paddedDecimal 2 date.day).toList ++ 'T' :: ((paddedDecimal 2 (sec / 3600)).toList ++
      ':' :: ((paddedDecimal 2 (sec / 60 % 60)).toList ++
      ':' :: ((paddedDecimal 2 (sec % 60 + t.nanos / 1000000000)).toList ++
      ((fractionText (t.nanos % 1000000000)).toList ++ ['Z'])))))) := by
  simp [Instant.text]

theorem year_of_inCalendar {t : Instant} (h : t.inCalendar = true) :
    Instant.firstYear ≤ (Date.ofDays (t.seconds / 86400)).year ∧
      (Date.ofDays (t.seconds / 86400)).year ≤ Instant.lastYear := by
  obtain ⟨hfirst, hlast⟩ := Bool.and_eq_true_iff.1 h
  have hfirst : Instant.firstSecond ≤ t.seconds := of_decide_eq_true hfirst
  have hlast : t.seconds ≤ Instant.lastSecond := of_decide_eq_true hlast
  unfold Instant.firstSecond at hfirst
  unfold Instant.lastSecond at hlast
  exact Date.year_ofDays (by omega) (by omega)

/-- A valid instant is read back from its text. -/
theorem read?_text {t : Instant} (h : t.Valid) : read? t.text = some t := by
  obtain ⟨hcalendar, hleap⟩ := h
  obtain ⟨hday, hsec⟩ : t.secondOfDay.toNat < 86400 ∧
      (t.secondOfDay.toNat : Int) = t.seconds % 86400 := by
    unfold Instant.secondOfDay
    omega
  obtain ⟨hfirst, hlast⟩ := year_of_inCalendar hcalendar
  have htext := toList_text t
  simp only at htext
  generalize t.secondOfDay.toNat = sec at htext hday hsec
  refine read?_parts (t.nanos / 1000000000) htext (Date.isValid_ofDays _) hfirst hlast (by omega)
    (by omega) (by omega) (by omega) ?_ ?_ hcalendar
  · -- The seconds are 60 if and only if the nanoseconds run on.
    split_ifs
    all_goals omega
  · rw [Date.toDays_ofDays]
    refine congrArg₂ Instant.mk ?_ ?_
    all_goals omega

theorem takeFraction?_lt {cs rest : List Char} {n : Nat}
    (h : takeFraction? cs = some (n, rest)) : n < 1000000000 := by
  unfold takeFraction? at h
  split at h
  · next cs =>
      obtain ⟨m, hm, hread⟩ := Option.map_eq_some_iff.1 h
      obtain ⟨rfl, -⟩ := Prod.mk.inj hread
      have hlength := List.length_take_le 9 (cs.takeWhile fun c => (digit? c).isSome)
      have hlt := decimal?_lt hm
      generalize ((cs.takeWhile fun c => (digit? c).isSome).take 9).length = width at hlength hlt ⊢
      have hpow : 10 ^ width * 10 ^ (9 - width) = 1000000000 := by
        rw [← Nat.pow_add, Nat.add_sub_cancel' hlength]
      rw [← hpow]
      exact Nat.mul_lt_mul_of_pos_right hlt (Nat.pow_pos (by decide))
  · cases h
    decide

/-- Zones are whole minutes. -/
theorem takeZone?_minutes {cs rest : List Char} {zone : Int}
    (h : takeZone? cs = some (zone, rest)) : zone % 60 = 0 := by
  have hoffset : ∀ (k : Int) (h m : Nat), k * ((h * 3600 + m * 60 : Nat) : Int) % 60 = 0 := by
    intro k h m
    refine Int.emod_eq_zero_of_dvd (Dvd.dvd.mul_left ?_ k)
    omega
  unfold takeZone? at h
  split at h
  · cases h
    rfl
  · cases h
    rfl
  · split_ifs at h
    · cases h
      rfl
    · split at h
      · cases h
      · dsimp only at h
        split at h
        · split at h
          · split at h
            · split_ifs at h
              cases h
              exact hoffset _ _ _
            · cases h
          · cases h
        · cases h

/-- What is read is an instant of the calendar. -/
theorem valid_of_read? {s : String} {t : Instant} (h : read? s = some t) : t.Valid := by
  unfold read? at h
  obtain ⟨⟨year, cs⟩, -, h⟩ := Option.bind_eq_some_iff.1 h
  obtain ⟨cs, -, h⟩ := Option.bind_eq_some_iff.1 h
  obtain ⟨⟨month, cs⟩, -, h⟩ := Option.bind_eq_some_iff.1 h
  obtain ⟨cs, -, h⟩ := Option.bind_eq_some_iff.1 h
  obtain ⟨⟨day, cs⟩, -, h⟩ := Option.bind_eq_some_iff.1 h
  dsimp only at h
  split at h
  · split_ifs at h
    · obtain ⟨cs, -, h⟩ := Option.bind_eq_some_iff.1 h
      obtain ⟨⟨hour, cs⟩, -, h⟩ := Option.bind_eq_some_iff.1 h
      obtain ⟨cs, -, h⟩ := Option.bind_eq_some_iff.1 h
      obtain ⟨⟨minute, cs⟩, -, h⟩ := Option.bind_eq_some_iff.1 h
      obtain ⟨cs, -, h⟩ := Option.bind_eq_some_iff.1 h
      obtain ⟨⟨second, cs⟩, -, h⟩ := Option.bind_eq_some_iff.1 h
      obtain ⟨⟨fraction, cs⟩, hfraction, h⟩ := Option.bind_eq_some_iff.1 h
      obtain ⟨⟨zone, cs⟩, hzone, h⟩ := Option.bind_eq_some_iff.1 h
      dsimp only at h
      have hlt := takeFraction?_lt hfraction
      have hminutes := takeZone?_minutes hzone
      by_cases hsixty : second = 60
      · simp only [hsixty, if_true] at h
        split_ifs at h with hread hcalendar
        cases h
        refine ⟨hcalendar, .inr ⟨?_, ?_⟩⟩
        · simp only
          omega
        · simp only
          omega
      · simp only [hsixty, if_false] at h
        split_ifs at h with hread hcalendar
        cases h
        refine ⟨hcalendar, .inl ?_⟩
        simp only
        omega
    · cases h
  · cases h

end Time

end BoardActivity
