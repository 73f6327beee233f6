import FlowRouting.Calendar.Parser
import FlowRouting.Calendar.Printer
import FlowRouting.Proofs.Text.Digits
import FlowRouting.Proofs.Text.Trimming

/-!
# Dates and instants that were written are read

Each part of a date and of a time of day is written with a fixed number of digits. So it is read
whatever stands behind it, both where just so many digits are asked for and where as many are the
limit. The fraction of a second is the exception: its digits end where the offset begins.

The forms of a text are tried in an order. What is written for an instant has the first of them. A
date alone has neither that one nor one of the layouts with a time of day, all of which go on behind
the date. Years that are written with a sign are left out, for the first form has none.
-/

namespace FlowRouting

open Calendar Text

private theorem bind_of_eq_some {α β : Type} {x : Option α} {a : α} (h : x = some a)
    (f : α → Option β) : x.bind f = f a := by
  rw [h, Option.bind_some]

private theorem scanChar_cons_self (c : Char) (cs : List Char) : scanChar c (c :: cs) = some cs :=
  if_pos rfl

/-! ## Numbers of a fixed width -/

section Padding

variable {width n : Nat}

theorem isDigit_of_mem_padDigits {c : Char} (h : c ∈ padDigits width n) : c.isDigit = true := by
  rcases List.mem_append.mp h with h | h
  · rw [List.eq_of_mem_replicate h]
    rfl
  · exact isDigit_of_mem_toDigits h

private theorem isBlank_of_mem_padDigits : ∀ c ∈ padDigits width n, isBlank c = false :=
  fun _ h ↦ isBlank_of_isDigit (isDigit_of_mem_padDigits h)

private theorem foldDigits_padDigits (width n : Nat) : foldDigits 0 (padDigits width n) = n := by
  rw [padDigits, foldDigits_append, foldDigits_replicate_zero, Nat.zero_mul, foldDigits_toDigits]

private theorem length_padDigits (hwidth : 0 < width) (hn : n < Nat.pow 10 width) :
    (padDigits width n).length = width := by
  have hle := (Nat.length_toDigits_le_iff (b := 10) (by decide) hwidth).mpr hn
  rw [padDigits, List.length_append, List.length_replicate]
  omega

private theorem exists_padDigits_eq_cons (hwidth : 0 < width) (hn : n < Nat.pow 10 width) :
    ∃ c cs, padDigits width n = c :: cs ∧ c.isDigit = true := by
  have hne : padDigits width n ≠ [] :=
    List.ne_nil_of_length_pos (by rw [length_padDigits hwidth hn]; exact hwidth)
  obtain ⟨c, cs, hcs⟩ := List.exists_cons_of_ne_nil hne
  have hc : c ∈ padDigits width n := hcs ▸ List.mem_cons_self
  exact ⟨c, cs, hcs, isDigit_of_mem_padDigits hc⟩

private theorem trimLeft_padDigits_append (hwidth : 0 < width) (hn : n < Nat.pow 10 width)
    (rest : List Char) :
    trimLeft (padDigits width n ++ rest) = padDigits width n ++ rest := by
  obtain ⟨c, cs, hcs, hc⟩ := exists_padDigits_eq_cons hwidth hn
  rw [hcs, List.cons_append, trimLeft, List.dropWhile_cons_of_neg]
  simp [isBlank_of_isDigit hc]

/-- A number of a fixed width is read where so many digits are the limit. -/
theorem scanDigits_padDigits_append (atLeast : Nat) (hwidth : 0 < width)
    (hn : n < Nat.pow 10 width) (hatLeast : atLeast ≤ width) (rest : List Char) :
    scanDigits atLeast width (padDigits width n ++ rest) = some (n, rest) := by
  have hlength := length_padDigits hwidth hn
  have hdigits : ((padDigits width n ++ rest).take width).takeWhile Char.isDigit =
      padDigits width n := by
    rw [List.take_left' hlength, List.takeWhile_eq_self_iff]
    exact fun c ↦ isDigit_of_mem_padDigits
  rw [scanDigits, hdigits, hlength, if_neg (Nat.not_lt.mpr hatLeast), foldDigits_padDigits,
    List.drop_left' hlength]

end Padding

/-! ## Fractions of a second -/

private theorem scanFraction_point {width n : Nat} (hwidth : 0 < width) (hnine : width ≤ 9)
    (hn : n < Nat.pow 10 width) {rest : List Char} (hrest : EndsDigits rest) :
    scanFraction ('.' :: padDigits width n ++ rest) = some (n * Nat.pow 10 (9 - width), rest) := by
  have hspan := spanDigits_append
    (fun c (hc : c ∈ padDigits width n) ↦ isDigit_of_mem_padDigits hc) hrest
  have hlength := length_padDigits hwidth hn
  obtain ⟨c, cs, hcs, -⟩ := exists_padDigits_eq_cons hwidth hn
  rw [List.cons_append, scanFraction, hspan]
  dsimp only
  rw [if_neg (by rw [hcs]; simp), List.take_of_length_le (by omega), foldDigits_padDigits, hlength]

private theorem scanFraction_writeFraction_append {n : Nat} (hn : n < Nat.pow 10 9)
    (cs : List Char) : scanFraction (writeFraction n ++ '+' :: cs) = some (n, '+' :: cs) := by
  have hplus : EndsDigits ('+' :: cs) := by
    rintro c ⟨⟩
    rfl
  have hbound : n < 1000000000 := hn
  -- As many digits are written as the fraction needs: none, three, six or nine.
  rw [writeFraction]
  split
  · next hzero =>
    rw [hzero]
    rfl
  · split
    · next hmilli =>
      have hmillis : n / 1000000 < 1000 := by omega
      have hback : n / 1000000 * 1000000 = n := by omega
      exact (scanFraction_point (by decide) (by decide) hmillis hplus).trans
        (congrArg (fun k ↦ some (k, '+' :: cs)) hback)
    · split
      · next hmicro =>
        have hmicros : n / 1000 < 1000000 := by omega
        have hback : n / 1000 * 1000 = n := by omega
        exact (scanFraction_point (by decide) (by decide) hmicros hplus).trans
          (congrArg (fun k ↦ some (k, '+' :: cs)) hback)
      · exact (scanFraction_point (by decide) (by decide) hn hplus).trans (by rw [Nat.mul_one])

private theorem isBlank_of_mem_writeFraction {n : Nat} :
    ∀ c ∈ writeFraction n, isBlank c = false := by
  rw [writeFraction]
  split
  · exact List.forall_mem_nil _
  · split
    · exact List.forall_mem_cons.mpr ⟨rfl, isBlank_of_mem_padDigits⟩
    · split
      · exact List.forall_mem_cons.mpr ⟨rfl, isBlank_of_mem_padDigits⟩
      · exact List.forall_mem_cons.mpr ⟨rfl, isBlank_of_mem_padDigits⟩

/-! ## Parts that were in their ranges -/

private theorem Date.of?_self (d : Date) : Date.of? d.year d.month d.day = some d :=
  dif_pos d.isDate

private theorem TimeOfDay.of?_self (t : TimeOfDay) :
    TimeOfDay.of? t.hour t.minute t.second t.nanosecond = some t :=
  dif_pos t.isTime

namespace Date

private theorem month_lt (d : Date) : d.month < Nat.pow 10 2 := by
  exact Nat.lt_of_le_of_lt d.isDate.2.2.2.1 (by decide)

private theorem day_lt (d : Date) : d.day < Nat.pow 10 2 := by
  have hday := d.isDate.2.2.2.2.2
  have hmonth : daysInMonth d.year d.month ≤ 31 := by
    rw [daysInMonth]
    split
    · split <;> decide
    · split <;> decide
  exact Nat.lt_of_le_of_lt (Nat.le_trans hday hmonth) (by decide)

end Date

private theorem Instant.behind?_zero (i : Instant) : i.behind? 0 = some i := by
  obtain ⟨hhour, hminute, -, -⟩ := i.time.isTime
  have hwithin : ((i.time.hour * 60 + i.time.minute - 0 : Int) % 1440).toNat =
      i.time.hour * 60 + i.time.minute := by
    omega
  have hh : (i.time.hour * 60 + i.time.minute) / 60 = i.time.hour := by omega
  have hm : (i.time.hour * 60 + i.time.minute) % 60 = i.time.minute := by omega
  rw [behind?, if_neg (by omega), if_neg (by omega), hwithin]
  simp only [Option.bind_eq_bind, Option.bind_some, hh, hm, TimeOfDay.of?_self]
  rfl

/-! ## Dates -/

namespace Date

/-- The year is written without a sign. -/
def IsUnsigned (d : Date) : Prop :=
  0 ≤ d.year ∧ d.year ≤ 9999

instance (d : Date) : Decidable d.IsUnsigned :=
  inferInstanceAs (Decidable (_ ∧ _))

variable {d : Date}

theorem IsUnsigned.year_lt (h : d.IsUnsigned) : d.year.natAbs < Nat.pow 10 4 := by
  obtain ⟨hlow, hhigh⟩ := h
  have hle : d.year.natAbs ≤ 9999 := by omega
  exact Nat.lt_of_le_of_lt hle (by decide)

theorem IsUnsigned.cast_natAbs (h : d.IsUnsigned) : (d.year.natAbs : Int) = d.year :=
  Int.natAbs_of_nonneg h.1

theorem IsUnsigned.write_append (h : d.IsUnsigned) (rest : List Char) :
    d.write ++ rest = padDigits 4 d.year.natAbs ++ '-' :: (padDigits 2 d.month ++
      '-' :: (padDigits 2 d.day ++ rest)) := by
  have hyear : 0 ≤ d.year ∧ d.year ≤ 9999 := h
  rw [write, writeYear, if_pos hyear]
  simp only [List.append_assoc, List.cons_append]

end Date

/-! ## RFC 3339 -/

private theorem Instant.toRfc3339_toList {i : Instant} (h : i.date.IsUnsigned) :
    i.toRfc3339.toList = padDigits 4 i.date.year.natAbs ++ '-' :: (padDigits 2 i.date.month ++
      '-' :: (padDigits 2 i.date.day ++ 'T' :: (padDigits 2 i.time.hour ++
        ':' :: (padDigits 2 i.time.minute ++ ':' :: (padDigits 2 i.time.second ++
          (writeFraction i.time.nanosecond ++ ['+', '0', '0', ':', '0', '0'])))))) := by
  rw [toRfc3339, String.toList_ofList, List.append_assoc, h.write_append, TimeOfDay.write]
  simp only [List.append_assoc, List.cons_append]

private theorem parseRfc3339?_toRfc3339 {i : Instant} (h : i.date.IsUnsigned) :
    parseRfc3339? i.toRfc3339.toList = some i := by
  obtain ⟨hhour, hminute, hsecond, hnanosecond⟩ := i.time.isTime
  have htwo {n : Nat} (hn : n < Nat.pow 10 2) (rest : List Char) :
      scanDigits 2 2 (padDigits 2 n ++ rest) = some (n, rest) :=
    scanDigits_padDigits_append 2 (by decide) hn (by decide) rest
  have hfour (rest : List Char) :
      scanDigits 4 4 (padDigits 4 i.date.year.natAbs ++ rest) = some (i.date.year.natAbs, rest) :=
    scanDigits_padDigits_append 4 (by decide) h.year_lt (by decide) rest
  have hjoint (cs : List Char) : (scanChar 'T' ('T' :: cs) <|> scanChar 't' ('T' :: cs) <|>
      scanChar ' ' ('T' :: cs)) = some cs := rfl
  have hoffset : scanOffset ['+', '0', '0', ':', '0', '0'] = some (0, []) := by decide
  have hdate : Date.of? i.date.year.natAbs i.date.month i.date.day = some i.date := by
    rw [h.cast_natAbs, Date.of?_self]
  -- One step for each part of the text, in the order in which they stand there.
  rw [Instant.toRfc3339_toList h, parseRfc3339?]
  refine (bind_of_eq_some (hfour _) _).trans ?_
  refine (bind_of_eq_some (scanChar_cons_self _ _) _).trans ?_
  refine (bind_of_eq_some (htwo i.date.month_lt _) _).trans ?_
  refine (bind_of_eq_some (scanChar_cons_self _ _) _).trans ?_
  refine (bind_of_eq_some (htwo i.date.day_lt _) _).trans ?_
  refine (bind_of_eq_some (hjoint _) _).trans ?_
  refine (bind_of_eq_some (htwo (Nat.lt_trans hhour (by decide)) _) _).trans ?_
  refine (bind_of_eq_some (scanChar_cons_self _ _) _).trans ?_
  refine (bind_of_eq_some (htwo (Nat.lt_trans hminute (by decide)) _) _).trans ?_
  refine (bind_of_eq_some (scanChar_cons_self _ _) _).trans ?_
  refine (bind_of_eq_some (htwo (Nat.lt_of_le_of_lt hsecond (by decide)) _) _).trans ?_
  refine (bind_of_eq_some (scanFraction_writeFraction_append hnanosecond _) _).trans ?_
  refine (bind_of_eq_some hoffset _).trans ?_
  refine (bind_of_eq_some hdate _).trans ?_
  refine (bind_of_eq_some i.time.of?_self _).trans ?_
  exact i.behind?_zero

private theorem parseRfc3339?_write {d : Date} (h : d.IsUnsigned) :
    parseRfc3339? d.write = none := by
  have hyear := scanDigits_padDigits_append 4 (by decide) h.year_lt (by decide)
  have hmonth := scanDigits_padDigits_append 2 (by decide) d.month_lt (by decide)
  have hday := scanDigits_padDigits_append 2 (by decide) d.day_lt (by decide)
  rw [← List.append_nil d.write, h.write_append, parseRfc3339?]
  refine (bind_of_eq_some (hyear _) _).trans ?_
  refine (bind_of_eq_some (scanChar_cons_self _ _) _).trans ?_
  refine (bind_of_eq_some (hmonth _) _).trans ?_
  refine (bind_of_eq_some (scanChar_cons_self _ _) _).trans ?_
  refine (bind_of_eq_some (hday _) _).trans ?_
  -- Behind the day there is no separator, so a date alone is no instant.
  rfl

/-! ## Layouts -/

private theorem scanYear_padDigits_append {width n : Nat} (hwidth : 0 < width)
    (hn : n < Nat.pow 10 width) (rest : List Char) :
    scanYear (padDigits width n ++ rest) =
      (scanDigits 1 4 (padDigits width n ++ rest)).map fun p ↦ ((p.1 : Int), p.2) := by
  obtain ⟨c, cs, hcs, hc⟩ := exists_padDigits_eq_cons hwidth hn
  rw [hcs, List.cons_append, scanYear]
  · rintro cs' ⟨⟩
    cases hc
  · rintro cs' ⟨⟩
    cases hc

/-- Reads the parts of a layout one after the other. -/
private def scanParts (layout : List Part) (p : Reading × List Char) :
    Option (Reading × List Char) :=
  layout.foldlM (fun p part ↦ part.scan p.1 p.2) p

private theorem scanLayout_eq (layout : List Part) (cs : List Char) :
    scanLayout layout cs =
      (scanParts layout ({}, cs)).bind fun p ↦ if p.2.isEmpty then some p.1 else none :=
  rfl

private theorem scanParts_append (layout layout' : List Part) (p : Reading × List Char) :
    scanParts (layout ++ layout') p = (scanParts layout p).bind (scanParts layout') :=
  List.foldlM_append

/-- What a layout reads of a date. -/
private def Date.reading (d : Date) : Reading where
  year := d.year
  month := d.month
  day := d.day

private theorem scanParts_dateLayout {d : Date} (h : d.IsUnsigned) (rest : List Char) :
    scanParts (dateLayout '-') ({}, d.write ++ rest) = some (d.reading, rest) := by
  have hyear := scanDigits_padDigits_append 1 (by decide) h.year_lt (by decide)
  have hmonth := scanDigits_padDigits_append 1 (by decide) d.month_lt (by decide)
  have hday := scanDigits_padDigits_append 1 (by decide) d.day_lt (by decide)
  rw [h.write_append, dateLayout, scanParts]
  simp only [List.foldlM_cons, List.foldlM_nil, Part.scan,
    trimLeft_padDigits_append (by decide) h.year_lt,
    trimLeft_padDigits_append (by decide) d.month_lt,
    trimLeft_padDigits_append (by decide) d.day_lt,
    scanYear_padDigits_append (by decide) h.year_lt, hyear, hmonth, hday, scanChar_cons_self,
    h.cast_natAbs,
    Option.map_some, Option.bind_eq_bind, Option.bind_some]
  rfl

private theorem scanLayout_append {d : Date} (h : d.IsUnsigned) (layout : List Part) :
    scanLayout (dateLayout '-' ++ layout) d.write =
      (scanParts layout (d.reading, [])).bind fun p ↦ if p.2.isEmpty then some p.1 else none := by
  have hdate := scanParts_dateLayout h []
  rw [List.append_nil] at hdate
  rw [scanLayout_eq, scanParts_append, hdate]
  rfl

private theorem scanLayout_of_mem_instantLayouts {d : Date} (h : d.IsUnsigned) {layout : List Part}
    (hlayout : layout ∈ instantLayouts) : scanLayout layout d.write = none := by
  simp only [instantLayouts, List.mem_cons, List.not_mem_nil, or_false] at hlayout
  -- Each goes on with a separator and a number, and finds neither in an empty text.
  rcases hlayout with rfl | rfl | rfl | rfl <;> exact scanLayout_append h _

private theorem scanLayout_dateLayout {d : Date} (h : d.IsUnsigned) :
    scanLayout (dateLayout '-') d.write = some d.reading := by
  rw [← List.append_nil (dateLayout '-')]
  exact scanLayout_append h []

/-! ## Timestamps -/

namespace Timestamp

theorem parse?_trimBlanks (s : String) : parse? s.trimBlanks = parse? s := by
  rw [parse?, parse?, String.trimBlanks, String.toList_ofList, trim_trim]

/-- **An instant is read from its text**, to the last digit of its fraction. -/
theorem parse?_toRfc3339 {i : Instant} (h : i.date.IsUnsigned) :
    parse? i.toRfc3339 = some ⟨i, false⟩ := by
  have htrimmed : IsTrimmed i.toRfc3339.toList := by
    rw [Instant.toRfc3339_toList h]
    refine IsTrimmed.of_forall ?_
    simp only [List.forall_mem_append, List.forall_mem_cons]
    exact ⟨isBlank_of_mem_padDigits, rfl, isBlank_of_mem_padDigits, rfl, isBlank_of_mem_padDigits,
      rfl, isBlank_of_mem_padDigits, rfl, isBlank_of_mem_padDigits, rfl, isBlank_of_mem_padDigits,
      isBlank_of_mem_writeFraction, rfl, rfl, rfl, rfl, rfl, rfl, List.forall_mem_nil _⟩
  rw [parse?, htrimmed.trim_eq, parseRfc3339?_toRfc3339 h, Option.map_some]
  exact Option.orElse_some

/-- **A date is read from its text** as a whole day. -/
theorem parse?_toText {d : Date} (h : d.IsUnsigned) : parse? d.toText = some (ofDate d) := by
  have htrimmed : IsTrimmed d.write := by
    rw [← List.append_nil d.write, h.write_append]
    refine IsTrimmed.of_forall ?_
    simp only [List.forall_mem_append, List.forall_mem_cons]
    exact ⟨isBlank_of_mem_padDigits, rfl, isBlank_of_mem_padDigits, rfl, isBlank_of_mem_padDigits,
      List.forall_mem_nil _⟩
  have hinstants : instantLayouts.findSome? (fun layout ↦
      ((scanLayout layout d.write).bind Reading.instant?).map fun i ↦ (⟨i, false⟩ : Timestamp)) =
        none := by
    rw [List.findSome?_eq_none_iff]
    intro layout hlayout
    rw [scanLayout_of_mem_instantLayouts h hlayout]
    rfl
  have hdate : d.reading.date? = some d := d.of?_self
  rw [parse?, Date.toText, String.toList_ofList, htrimmed.trim_eq,
    parseRfc3339?_write h, hinstants, dateLayouts, List.findSome?_cons, scanLayout_dateLayout h,
    Option.bind_some, hdate]
  rfl

end Timestamp

end FlowRouting
