import RollupAudit.Proofs.Text.Digits
import RollupAudit.Proofs.Text.Utf8
import RollupAudit.Proofs.Time.Calendar
import RollupAudit.Validation.Scalar

/-!
# Instants in texts

An instant is written with a date, a time of day and the mark of universal time, or as another clock
shows it, with the offset of that clock in hours and minutes. The microseconds are left out where they
are zero. Each of these texts is read as the instant, to the microsecond.

**Results.**
* `InternetTime.readDate_dateText`: the text of a date is read as the date.
* `InternetTime.readClock?_clockText`: the text of a time of day is read as the time of day.
* `Scalar.readTimestamp_utcText`: the text of an instant is read as the instant.
* `Scalar.readTimestamp_text`: the text of a clock reading is read as the reading and the offset.
-/

namespace RollupAudit

open Text

namespace ClockTime

/-- A time of day with every part in its range. -/
def IsRegular (t : ClockTime) : Prop :=
  t.hour < 24 ∧ t.minute < 60 ∧ t.second < 60 ∧ t.micro < Duration.microsPerSecond

theorem isRegular_ofMicros
    {n : Nat}
    (h : n < Duration.microsPerDay) :
    (ofMicros n).IsRegular := by
  simp only [IsRegular, ofMicros, Duration.microsPerDay, Duration.secondsPerDay,
    Duration.microsPerSecond] at h ⊢
  omega

theorem fault?_of_isRegular
    {t : ClockTime}
    (h : t.IsRegular) :
    t.fault? = none := by
  obtain ⟨hhour, hminute, hsecond, -⟩ := h
  rw [fault?, if_neg (by omega), if_neg (by omega), if_neg (by omega)]

theorem micros_ofMicros (n : Nat) : (ofMicros n).micros = n := by
  simp only [micros, ofMicros, Duration.secondsPerHour, Duration.secondsPerMinute,
    Duration.microsPerSecond]
  omega

end ClockTime

namespace InternetTime

/-- Digits of a fixed width are read as the number that they are written for. -/
theorem number?_paddedDigits
    {width n : Nat}
    (hwidth : 0 < width)
    (h : n < 10 ^ width)
    (rest : List Char) :
    number? width (paddedDigits 10 width n ++ rest) = some (n, rest) := by
  have hlength := length_paddedDigits (by decide) hwidth h
  have hdigits : (paddedDigits 10 width n).all Char.isDigit = true :=
    List.all_eq_true.mpr fun c hc => isDigit_of_mem_paddedDigits hc
  rw [number?, List.take_left' hlength, List.drop_left' hlength]
  simp only [hlength, hdigits, and_self, if_true, digitsValue_paddedDigits]

theorem number_paddedDigits
    {width n : Nat}
    (hwidth : 0 < width)
    (h : n < 10 ^ width)
    (fault : DateTextFault)
    (rest : List Char) :
    number width fault (paddedDigits 10 width n ++ rest) = .ok (n, rest) := by
  rw [number, number?_paddedDigits hwidth h]

/-- The text of a date is read as the date. -/
theorem readDate_dateText
    (d : CalendarDate)
    (rest : List Char) :
    readDate (Instant.dateText (d.year, d.month, d.day) ++ rest) =
      .ok ((d.year, d.month, d.day), rest) := by
  obtain ⟨hyear, hmonth, hday⟩ :
      d.year ≤ lastYear ∧ (1 ≤ d.month ∧ d.month ≤ 12) ∧
        1 ≤ d.day ∧ d.day ≤ daysInMonth d.year d.month := by
    have hdate := d.isDate_eq
    simp only [isDate, Bool.and_eq_true, decide_eq_true_eq] at hdate
    omega
  have hlong := daysInMonth_le d.year d.month
  simp only [lastYear] at hyear
  have hlength : ¬ (Instant.dateText (d.year, d.month, d.day) ++ rest).length < 10 := by
    simp only [Instant.dateText, List.length_append, List.length_cons,
      length_paddedDigits (show 1 < 10 by decide) (show 0 < 4 by decide) (show d.year < 10 ^ 4 by omega),
      length_paddedDigits (show 1 < 10 by decide) (show 0 < 2 by decide) (show d.month < 10 ^ 2 by omega),
      length_paddedDigits (show 1 < 10 by decide) (show 0 < 2 by decide) (show d.day < 10 ^ 2 by omega)]
    omega
  rw [readDate, if_neg hlength]
  simp only [Instant.dateText, List.append_assoc, List.cons_append]
  rw [number_paddedDigits (by decide) (by omega)]
  simp only [bind, Except.bind, pure, Except.pure, hyphen]
  rw [number_paddedDigits (by decide) (by omega)]
  simp only
  rw [number_paddedDigits (by decide) (by omega)]
  simp only
  rw [if_neg (by omega), if_neg (by omega)]

/-- Six places of a second are read as its microseconds. -/
theorem readFraction?_paddedDigits
    {micro : Nat}
    (h : micro < 10 ^ 6)
    {rest : List Char}
    (hrest : NoDigitHead rest) :
    readFraction? (paddedDigits 10 6 micro ++ rest) = some (micro, rest) := by
  have hdigits : ∀ c ∈ paddedDigits 10 6 micro, c.isDigit = true :=
    fun c hc => isDigit_of_mem_paddedDigits hc
  have hlength := length_paddedDigits (by decide) (by decide) h
  have hempty : (paddedDigits 10 6 micro).isEmpty = false := by
    rw [← Bool.not_eq_true, List.isEmpty_iff_length_eq_zero]
    omega
  rw [readFraction?, takeWhile_digits hdigits hrest, dropWhile_digits hdigits hrest]
  simp only [hempty, List.take_of_length_le (Nat.le_of_eq hlength), hlength,
    digitsValue_paddedDigits]
  simp

/-- That a text can stand after a time of day: nothing at its start belongs to the seconds. -/
def StartsOffset (rest : List Char) : Prop :=
  ∀ c ∈ rest.head?, c.isDigit = false ∧ c ≠ '.' ∧ c ≠ ','

/-- Seconds are read with their fraction, or without one for zero microseconds. -/
theorem readSeconds?_fractionText
    {second micro : Nat}
    (hsecond : second < 60)
    (hmicro : micro < Duration.microsPerSecond)
    {rest : List Char}
    (hrest : StartsOffset rest) :
    readSeconds? (paddedDigits 10 2 second ++ (Instant.fractionText micro ++ rest)) =
      some (second, micro, rest) := by
  rw [readSeconds?, number?_paddedDigits (by decide) (by omega)]
  unfold Instant.fractionText
  split
  · rename_i hzero
    subst hzero
    cases rest with
    | nil => rfl
    | cons c cs =>
      obtain ⟨-, hpoint, hcomma⟩ := hrest c rfl
      simp [hpoint, hcomma]
  · have hhead : NoDigitHead rest := fun c hc => (hrest c hc).1
    have hread := readFraction?_paddedDigits hmicro hhead
    simp only [Option.bind_eq_bind, Option.bind_some, List.cons_append, hread]
    rfl

/-- The text of a time of day is read as the time of day. -/
theorem readClock?_clockText
    {t : ClockTime}
    (h : t.IsRegular)
    {rest : List Char}
    (hrest : StartsOffset rest) :
    readClock? (Instant.clockText t ++ (Instant.fractionText t.micro ++ rest)) = some (t, rest) := by
  obtain ⟨hhour, hminute, hsecond, hmicro⟩ := id h
  have hseconds := readSeconds?_fractionText hsecond hmicro hrest
  have hfault := ClockTime.fault?_of_isRegular h
  simp only [readClock?, Instant.clockText, List.append_assoc, List.cons_append]
  rw [number?_paddedDigits (by decide) (by omega)]
  simp only [Option.bind_eq_bind, Option.bind_some, colon?]
  rw [number?_paddedDigits (by decide) (by omega)]
  simp [hseconds, hfault]

/-- The date and the time of day of an instant are those of its text. -/
theorem exists_date
    (i : Instant) :
    ∃ d : CalendarDate, i.date = (d.year, d.month, d.day) ∧ Instant.ofClock? d i.clock = some i := by
  have hmicros : i.micros < calendarDays * Duration.microsPerDay := i.micros_lt
  have hpos : 0 < Duration.microsPerDay := by decide
  obtain ⟨d, hparts, hnumber⟩ :=
    CalendarDate.exists_partsOfDay ((Nat.div_lt_iff_lt_mul hpos).mpr hmicros)
  have hwhole : (d.dayNumber * Duration.microsPerDay : Int) + i.clock.micros = i.micros := by
    rw [hnumber, Instant.clock, ClockTime.micros_ofMicros, ← Int.natCast_mul, ← Int.natCast_add,
      Nat.mul_comm, Nat.div_add_mod]
  refine ⟨d, hparts, ?_⟩
  rw [Instant.ofClock?, hwhole, Instant.ofMicros?, dif_pos ⟨Int.natCast_nonneg _, i.micros_lt⟩]
  rfl

/-- Parts that make up a date and an instant of it make up a timestamp. -/
theorem ofParts_eq
    {date : Nat × Nat × Nat} {t : ClockTime} {d : CalendarDate}
    {i : Instant}
    (hdate : CalendarDate.ofParts date.1 date.2.1 date.2.2 = .ok d)
    (hclock : Instant.ofClock? d t = some i)
    (offset : Option Int) :
    ofParts date t offset = .ok ⟨i, offset⟩ := by
  unfold ofParts
  -- a name of its own keeps the arithmetic of the instant from being evaluated
  obtain ⟨clock, hname⟩ : ∃ clock, clock = Instant.ofClock? := ⟨_, rfl⟩
  rw [← hname] at hclock ⊢
  simp only [hdate, hclock]

/-- The text of an instant is read as the instant, with the offset that stands after it. -/
theorem read_isoText
    (i : Instant)
    {rest : List Char} {offset : Option Int}
    (hrest : StartsOffset rest)
    (hoffset : readOffset? rest = some offset) :
    read (i.isoText ++ rest) = .ok ⟨i, offset⟩ := by
  obtain ⟨d, hdate, hofClock⟩ := exists_date i
  have hclock : i.clock.IsRegular := by
    have hpos : 0 < Duration.microsPerDay := by decide
    exact ClockTime.isRegular_ofMicros (Nat.mod_lt i.micros hpos)
  have hofParts : CalendarDate.ofParts d.year d.month d.day = .ok d := by
    rw [CalendarDate.ofParts, dif_pos d.isDate_eq]
  have hafter : readClockAfter? ('T' :: (Instant.clockText i.clock ++
      (Instant.fractionText i.clock.micro ++ rest))) = some (i.clock, offset) := by
    simp [readClockAfter?, isSeparator, readClock?_clockText hclock hrest, hoffset]
  have htext : i.isoText ++ rest = Instant.dateText (d.year, d.month, d.day) ++
      'T' :: (Instant.clockText i.clock ++ (Instant.fractionText i.clock.micro ++ rest)) := by
    simp [Instant.isoText, hdate]
  rw [htext, read, readDate_dateText]
  simp only [hafter]
  exact ofParts_eq hofParts hofClock _

theorem isAscii_paddedDigits
    (width n : Nat) :
    IsAscii (paddedDigits 10 width n) :=
  fun _ hc => toNat_lt_of_isDigit (isDigit_of_mem_paddedDigits hc)

/-- The text of an instant is in ASCII. -/
theorem isAscii_isoText (i : Instant) : IsAscii i.isoText := by
  have hfraction : IsAscii (Instant.fractionText i.clock.micro) := by
    unfold Instant.fractionText
    split
    · exact isAscii_nil
    · exact isAscii_cons.mpr ⟨by decide, isAscii_paddedDigits 6 _⟩
  simp [Instant.isoText, Instant.dateText, Instant.clockText, isAscii_paddedDigits, hfraction]

/-- The text of an offset of so many minutes: its sign, hours and minutes. -/
def minutesText (minutes : Int) : List Char :=
  (if minutes < 0 then '-' else '+') :: paddedDigits 10 2 (minutes.natAbs / 60) ++
    ':' :: paddedDigits 10 2 (minutes.natAbs % 60)

theorem startsOffset_minutesText
    (minutes : Int) :
    StartsOffset (minutesText minutes) := by
  rintro c ⟨⟩
  split <;> decide

theorem isAscii_minutesText
    (minutes : Int) :
    IsAscii (minutesText minutes) := by
  have hsign : (if minutes < 0 then '-' else '+').toNat < 0x80 := by
    split <;> decide
  simp [minutesText, isAscii_paddedDigits, hsign]

theorem readOffset?_cons
    {c : Char} {negative : Bool} {minutes : Nat}
    (hsign : c = '-' ∧ negative = true ∨ c = '+' ∧ negative = false)
    (h : minutes < 24 * 60) :
    readOffset? (c :: (paddedDigits 10 2 (minutes / 60) ++ ':' :: paddedDigits 10 2 (minutes % 60))) =
      some (some (if negative then -Int.ofNat (minutes * 60 * Duration.microsPerSecond)
        else Int.ofNat (minutes * 60 * Duration.microsPerSecond))) := by
  have hhours := number?_paddedDigits (by decide) (by omega : minutes / 60 < 10 ^ 2)
    (':' :: paddedDigits 10 2 (minutes % 60))
  have hminutes := number?_paddedDigits (by decide) (by omega : minutes % 60 < 10 ^ 2) []
  rw [List.append_nil] at hminutes
  have hrange : minutes / 60 < 24 ∧ minutes % 60 < 60 := by omega
  have hwhole : minutes / 60 * 60 + minutes % 60 = minutes := by omega
  rcases hsign with ⟨rfl, rfl⟩ | ⟨rfl, rfl⟩
  all_goals
    simp only [readOffset?, readSign?, colon?, Option.bind_eq_bind, Option.bind_some, hhours,
      Option.getD_some, hminutes, List.isEmpty_nil, hrange, and_self, if_true, hwhole, pure]
    rfl

/-- An offset below a day is read as so many minutes. -/
theorem readOffset?_minutesText
    {minutes : Int}
    (h : minutes.natAbs < 24 * 60) :
    readOffset? (minutesText minutes) =
      some (some (minutes * (60 * Duration.microsPerSecond : Nat))) := by
  rcases Int.lt_or_le minutes 0 with hsign | hsign
  · rw [minutesText, if_pos hsign, List.cons_append, readOffset?_cons (.inl ⟨rfl, rfl⟩) h]
    simp only [Duration.microsPerSecond, if_true, Option.some.injEq, Int.ofNat_eq_natCast]
    omega
  · rw [minutesText, if_neg (by omega), List.cons_append, readOffset?_cons (.inr ⟨rfl, rfl⟩) h]
    simp only [Duration.microsPerSecond, Bool.false_eq_true, if_false, Option.some.injEq,
      Int.ofNat_eq_natCast]
    omega

end InternetTime

namespace Timestamp

/-- An instant as shown by a clock with an offset of so many minutes. -/
def atMinutes (i : Instant) (minutes : Int) : Timestamp :=
  ⟨i, some (minutes * (60 * Duration.microsPerSecond : Nat))⟩

/-- An offset of whole minutes is written without seconds. -/
theorem offsetText_minutes
    (minutes : Int) :
    offsetText (minutes * (60 * Duration.microsPerSecond : Nat)) = InternetTime.minutesText minutes := by
  have hsign : minutes * (60 * Duration.microsPerSecond : Nat) < 0 ↔ minutes < 0 := by
    simp only [Duration.microsPerSecond]
    omega
  have hseconds : (minutes * (60 * Duration.microsPerSecond : Nat)).natAbs / Duration.microsPerSecond =
      minutes.natAbs * 60 := by
    simp only [Duration.microsPerSecond]
    omega
  have hmicros : (minutes * (60 * Duration.microsPerSecond : Nat)).natAbs % Duration.microsPerSecond =
      0 := by
    simp only [Duration.microsPerSecond]
    omega
  have hhours : minutes.natAbs * 60 / 3600 = minutes.natAbs / 60 := by omega
  simp only [offsetText, hsign, hseconds, hmicros, hhours, InternetTime.minutesText]
  simp

theorem text_atMinutes
    (i : Instant)
    (minutes : Int) :
    (atMinutes i minutes).text = String.ofList (i.isoText ++ InternetTime.minutesText minutes) := by
  rw [← offsetText_minutes]
  rfl

end Timestamp

namespace Scalar

theorem readOf_of_notMem
    {α : Type} {s : String}
    (h : halfMark ∉ s.toList)
    (read : String → Except Cause α) :
    readOf read s = read s := by
  rw [readOf, any_isHalf_of_notMem h, if_neg Bool.false_ne_true]

/-- A text in ASCII is read octet by octet. -/
theorem readTimestamp_text_ofList
    {cs : List Char}
    (h : IsAscii cs) :
    readTimestamp (.text (String.ofList cs)) = (InternetTime.read cs).mapError .timestamp := by
  have hmark : halfMark ∉ (String.ofList cs).toList := by
    rw [String.toList_ofList]
    exact halfMark_notMem_of_isAscii h
  have htext : readTimestamp (.text (String.ofList cs)) =
      readOf (fun s => readTimestampOctets (encodeUtf8 (characters s))) (String.ofList cs) := rfl
  rw [htext, readOf_of_notMem hmark, characters_of_notMem hmark, encodeUtf8_ofList h,
    readTimestampOctets, map_asciiOctet h]

/-- The text of an instant is read as the timestamp of the instant. -/
theorem readTimestamp_utcText
    (i : Instant) :
    readTimestamp (.text i.utcText) = .ok (.ofInstant i) := by
  have hascii : IsAscii (i.isoText ++ ['Z']) := by simp [InternetTime.isAscii_isoText]
  have hmark : InternetTime.StartsOffset ['Z'] := by
    rintro c ⟨⟩
    decide
  rw [Instant.utcText, readTimestamp_text_ofList hascii, InternetTime.read_isoText i hmark rfl]
  rfl

/-- The text of a clock reading is read as the reading and the offset, if the offset is below a day. -/
theorem readTimestamp_text
    (i : Instant)
    {minutes : Int}
    (h : minutes.natAbs < 24 * 60) :
    readTimestamp (.text (Timestamp.atMinutes i minutes).text) = .ok (.atMinutes i minutes) := by
  have hascii : IsAscii (i.isoText ++ InternetTime.minutesText minutes) := by
    simp [InternetTime.isAscii_isoText, InternetTime.isAscii_minutesText]
  rw [Timestamp.text_atMinutes, readTimestamp_text_ofList hascii,
    InternetTime.read_isoText i (InternetTime.startsOffset_minutesText minutes)
      (InternetTime.readOffset?_minutesText h)]
  rfl

end Scalar

/-- The timestamp of an instant is at the instant. -/
theorem Timestamp.instant?_ofInstant
    (i : Instant) :
    (ofInstant i).instant? = some i := by
  have hshift : (ofInstant i).instant? = Instant.ofMicros? (i.micros + -0) := rfl
  rw [hshift, Int.neg_zero, Int.add_zero, Instant.ofMicros?,
    dif_pos ⟨Int.natCast_nonneg _, i.micros_lt⟩]
  rfl

end RollupAudit
