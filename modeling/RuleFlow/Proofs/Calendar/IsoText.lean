import RuleFlow.Calendar.Iso
import RuleFlow.Proofs.Number.DecimalText

/-!
# ISO texts are read back

Dates and moments are written in one of the forms that reading knows. This file shows that reading
comes back to the fields that were written.

## One lemma for each part

A part of a text is read where it stands at the front, whatever follows. Times of day and offsets
are written alike: hours and minutes, possibly seconds, possibly microseconds
(`RuleFlow.Calendar.Iso.WritesClock`). Reading needs to know how long such a time is, and where its
digits end.

* `RuleFlow.Calendar.Iso.digits?_paddedDigits` and `RuleFlow.Calendar.Iso.WritesClock.clock?_eq` are
  the parts, `RuleFlow.Calendar.Iso.dateFields?_isoChars` and
  `RuleFlow.Calendar.Iso.WritesClock.time?_eq` the two halves of a moment.
* `RuleFlow.Calendar.ofText_isoText` is the result.

## What is lost

An offset is read as hours, minutes and seconds with a fraction; but where the whole seconds are
zero, the fraction is not looked at (`RuleFlow.Calendar.Offset.readBack`). So a moment whose offset
is less than a second comes back with the offset zero, and nothing else is lost.
-/

namespace RuleFlow.Calendar

open Number

namespace Iso

variable {cs os rest : List Char} {clock : Clock} {h m s micro n width : Nat}

/-! ### Octets and digits -/

/-- **The octets of a text in ASCII** are its characters. -/
theorem octets_ofList (hascii : ∀ c ∈ cs, c.toNat < 128) : octets (String.ofList cs) = cs := by
  have hbytes : (String.ofList cs).toUTF8.data.toList = cs.flatMap String.utf8EncodeChar := by
    simp [String.toUTF8, String.ofList, List.utf8Encode]
  have hone : ∀ c : Char, c.toNat < 128 → String.utf8EncodeChar c = [UInt8.ofNat c.toNat] := by
    intro c hc
    have hle : c.val.toNat ≤ 127 := Nat.le_of_lt_succ hc
    simp only [String.utf8EncodeChar, if_pos hle]
    rfl
  have hback : ∀ c : Char, c.toNat < 128 → Char.ofNat (UInt8.ofNat c.toNat).toNat = c := by
    intro c hc
    have hoctet : (UInt8.ofNat c.toNat).toNat = c.toNat := by
      rw [UInt8.toNat_ofNat']
      omega
    rw [hoctet, Char.ofNat_toNat]
  rw [octets, hbytes]
  clear hbytes
  induction cs with
  | nil => rfl
  | cons c cs ih =>
    obtain ⟨hc, hcs⟩ := List.forall_mem_cons.mp hascii
    rw [List.flatMap_cons, hone c hc, List.singleton_append, List.map_cons, hback c hc, ih hcs]

/-- **A number of a fixed width** is read at the front of a text. -/
theorem digits?_paddedDigits (hwidth : 0 < width) (hn : n < 10 ^ width) (rest : List Char) :
    digits? width (paddedDigits width n ++ rest) = some (n, rest) := by
  have hlength := length_paddedDigits hwidth hn
  have htake : (paddedDigits width n ++ rest).take width = paddedDigits width n :=
    List.take_left' hlength
  have hdrop : (paddedDigits width n ++ rest).drop width = rest := List.drop_left' hlength
  have hdigits : (paddedDigits width n).all Char.isDigit = true :=
    List.all_eq_true.mpr fun c hc => isDigit_of_mem_paddedDigits hc
  have hvalue : (paddedDigits width n).foldl (fun n c => n * 10 + (c.toNat - 48)) 0 = n :=
    digitsValue_paddedDigits width n
  rw [digits?, htake, hdrop, if_pos ⟨hlength, hdigits⟩, hvalue]

/-- Such a number begins with a digit. -/
theorem isDigit_peek_paddedDigits (hwidth : 0 < width) (hn : n < 10 ^ width) (rest : List Char) :
    (peek (paddedDigits width n ++ rest)).isDigit = true := by
  cases hdigits : paddedDigits width n with
  | nil =>
    have hlength := length_paddedDigits hwidth hn
    rw [hdigits, List.length_nil] at hlength
    omega
  | cons c more =>
    have hc : c ∈ paddedDigits width n := hdigits ▸ List.mem_cons_self
    exact isDigit_of_mem_paddedDigits hc

@[simp] theorem peek_cons (c : Char) (cs : List Char) : peek (c :: cs) = c := rfl

theorem beq_eq_false_of_isDigit {c : Char} (hc : c.isDigit = true) (mark : Char)
    (hmark : mark.isDigit = false) : (c == mark) = false := by
  rw [beq_eq_false_iff_ne]
  rintro rfl
  exact Bool.noConfusion (hc.symm.trans hmark)

/-! ### Dates -/

theorem isoChars_append (d : Date) (rest : List Char) :
    d.isoChars ++ rest = paddedDigits 4 d.year ++ '-' :: (paddedDigits 2 d.month ++
      '-' :: (paddedDigits 2 d.day ++ rest)) := by
  simp [Date.isoChars]

/-- The fields of a date fit their widths. -/
theorem date_lt (d : Date) : d.year < 10 ^ 4 ∧ d.month < 10 ^ 2 ∧ d.day < 10 ^ 2 := by
  obtain ⟨-, hyear, -, hmonth, -, hday⟩ := d.valid
  have hlength : daysInMonth d.year d.month ≤ 31 := by
    rw [daysInMonth.eq_def]
    split
    · split_ifs <;> decide
    all_goals decide
  omega

theorem length_isoChars (d : Date) : d.isoChars.length = 10 := by
  obtain ⟨hyear, hmonth, hday⟩ := date_lt d
  simp only [Date.isoChars, List.length_append, List.length_cons,
    length_paddedDigits (by decide) hyear, length_paddedDigits (by decide) hmonth,
    length_paddedDigits (by decide) hday]

/-- **The fields of a date** are read at the front of a text. -/
theorem dateFields?_isoChars (length : Nat) (d : Date) (rest : List Char) :
    dateFields? length (d.isoChars ++ rest) = some (d.year, d.month, d.day) := by
  obtain ⟨hyear, hmonth, hday⟩ := date_lt d
  have hpeek := isDigit_peek_paddedDigits (by decide) hmonth
    ('-' :: (paddedDigits 2 d.day ++ rest))
  have hweek := beq_eq_false_of_isDigit hpeek 'W' rfl
  rw [isoChars_append, dateFields?, digits?_paddedDigits (by decide) hyear]
  simp only [Option.bind_eq_bind, Option.bind_some, peek_cons, beq_self_eq_true, if_true,
    List.drop_succ_cons, List.drop_zero, hweek, Bool.false_eq_true, if_false,
    digits?_paddedDigits (by decide) hmonth, digits?_paddedDigits (by decide) hday]
  rfl

/-! ### Times -/

/-- **A clock is written** as hours and minutes, with the seconds behind them, or with seconds and
microseconds. What is not written is zero. -/
inductive WritesClock : List Char → Clock → Prop
  /-- Hours and minutes. -/
  | minutes {h m : Nat} : h < 10 ^ 2 → m < 10 ^ 2 →
      WritesClock (paddedDigits 2 h ++ ':' :: paddedDigits 2 m) (h, m, 0, 0)
  /-- Hours, minutes and seconds. -/
  | seconds {h m s : Nat} : h < 10 ^ 2 → m < 10 ^ 2 → s < 10 ^ 2 →
      WritesClock (paddedDigits 2 h ++ ':' :: (paddedDigits 2 m ++ ':' :: paddedDigits 2 s))
        (h, m, s, 0)
  /-- Hours, minutes, seconds and microseconds. -/
  | micros {h m s micro : Nat} : h < 10 ^ 2 → m < 10 ^ 2 → s < 10 ^ 2 → micro < 10 ^ 6 →
      WritesClock (paddedDigits 2 h ++ ':' :: (paddedDigits 2 m ++ ':' :: (paddedDigits 2 s ++
        '.' :: paddedDigits 6 micro))) (h, m, s, micro)

/-- **A field with a colon behind it** is read, and reading goes on behind the colon. -/
theorem clockFields?_colon {colon : Bool} {fields : List Nat} {left : Nat} (fuel : Nat)
    (hn : n < 10 ^ 2) (hleft : 3 < left) (hfields : fields.length < 2)
    (hcolon : fields = [] ∨ colon = true) (rest : List Char) :
    clockFields? colon (fuel + 1) fields left (paddedDigits 2 n ++ ':' :: rest) =
      clockFields? true fuel (fields ++ [n]) (left - 3) rest := by
  have hstays : (if (fields ++ [n]).length = 1 then true else colon) = true := by
    rcases hcolon with rfl | rfl
    · rfl
    · exact ite_self _
  have hfew : ¬(fields ++ [n]).length = 3 := by
    rw [List.length_append, List.length_singleton]
    omega
  have hgoes : ¬left ≤ 3 := by omega
  rw [clockFields?, digits?_paddedDigits (by decide) hn]
  simp only [Option.bind_eq_bind, Option.bind_some, peek_cons, beq_self_eq_true, hstays,
    Bool.and_self, if_neg hgoes, if_true, if_neg hfew, List.drop_succ_cons,
    List.drop_zero]

/-- **The last field** is read where no more octets belong to the time. -/
theorem clockFields?_last {colon : Bool} {fields : List Nat} {left : Nat} (fuel : Nat)
    (hn : n < 10 ^ 2) (hleft : left ≤ 3) (rest : List Char) :
    clockFields? colon (fuel + 1) fields left (paddedDigits 2 n ++ rest) =
      some (((fields ++ [n]).getD 0 0, (fields ++ [n]).getD 1 0, (fields ++ [n]).getD 2 0, 0),
        ended rest) := by
  rw [clockFields?, digits?_paddedDigits (by decide) hn]
  simp only [Option.bind_eq_bind, Option.bind_some, if_pos hleft]
  rfl

/-- **The seconds with a fraction**: six digits of it are read, and the digits end there. -/
theorem clockFields?_fraction (fuel : Nat) (hs : s < 10 ^ 2) (hmicro : micro < 10 ^ 6)
    (hrest : ∀ c ∈ rest.head?, c.isDigit = false) :
    clockFields? true (fuel + 1) [h, m] 9
        (paddedDigits 2 s ++ '.' :: (paddedDigits 6 micro ++ rest)) =
      some ((h, m, s, micro), ended rest) := by
  have hdrop : rest.dropWhile Char.isDigit = rest := by
    cases rest with
    | nil => rfl
    | cons c rest => exact List.dropWhile_cons_of_neg (by simp [hrest c rfl])
  have hfraction : fraction? (paddedDigits 6 micro ++ rest) 6 = some (micro, rest) := by
    rw [fraction?]
    simp [digits?_paddedDigits (by decide) hmicro, hdrop, tenPow]
  rw [clockFields?, digits?_paddedDigits (by decide) hs]
  simp [hfraction]

/-- **A clock is read back** at the front of a text, where the text does not go on with digits. -/
theorem WritesClock.clock?_eq (hwrites : WritesClock cs clock)
    (hrest : ∀ c ∈ rest.head?, c.isDigit = false) :
    clock? cs.length (cs ++ rest) = some (clock, ended rest) := by
  rw [clock?]
  cases hwrites with
  | @minutes h m hh hm =>
    have hlength : (paddedDigits 2 h ++ ':' :: paddedDigits 2 m).length = 5 := by
      rw [List.length_append, List.length_cons, length_paddedDigits (by decide) hh,
        length_paddedDigits (by decide) hm]
    rw [hlength, List.append_assoc, List.cons_append,
      clockFields?_colon 2 hh (by decide) (by decide) (.inl rfl),
      clockFields?_last 1 hm (by decide)]
    rfl
  | @seconds h m s hh hm hs =>
    have hlength : (paddedDigits 2 h ++ ':' :: (paddedDigits 2 m ++
        ':' :: paddedDigits 2 s)).length = 8 := by
      rw [List.length_append, List.length_cons, List.length_append, List.length_cons,
        length_paddedDigits (by decide) hh, length_paddedDigits (by decide) hm,
        length_paddedDigits (by decide) hs]
    rw [hlength, List.append_assoc, List.cons_append, List.append_assoc, List.cons_append,
      clockFields?_colon 2 hh (by decide) (by decide) (.inl rfl),
      clockFields?_colon 1 hm (by decide) (by simp) (.inr rfl),
      clockFields?_last 0 hs (by decide)]
    rfl
  | @micros h m s micro hh hm hs hmicro =>
    have hlength : (paddedDigits 2 h ++ ':' :: (paddedDigits 2 m ++ ':' :: (paddedDigits 2 s ++
        '.' :: paddedDigits 6 micro))).length = 15 := by
      simp only [List.length_append, List.length_cons, length_paddedDigits (by decide) hh,
        length_paddedDigits (by decide) hm, length_paddedDigits (by decide) hs,
        length_paddedDigits (by decide) hmicro]
    rw [hlength, List.append_assoc, List.cons_append, List.append_assoc, List.cons_append,
      List.append_assoc, List.cons_append,
      clockFields?_colon 2 hh (by decide) (by decide) (.inl rfl),
      clockFields?_colon 1 hm (by decide) (by simp) (.inr rfl)]
    exact clockFields?_fraction 0 hs hmicro hrest

/-- A clock with nothing behind it is read back. -/
theorem WritesClock.clock?_self (hwrites : WritesClock cs clock) :
    clock? cs.length cs = some (clock, true) := by
  have h : clock? cs.length (cs ++ []) = some (clock, true) := hwrites.clock?_eq (by simp)
  rwa [List.append_nil] at h

/-- The characters of a clock: digits, colons and a point. -/
theorem WritesClock.chars (hwrites : WritesClock cs clock) :
    ∀ c ∈ cs, c.isDigit = true ∨ c ∈ [':', '.'] := by
  have hdigits (width n : Nat) : ∀ c ∈ paddedDigits width n, c.isDigit = true ∨ c ∈ [':', '.'] :=
    fun _ hc => .inl (isDigit_of_mem_paddedDigits hc)
  have hcolon : ':'.isDigit = true ∨ ':' ∈ [':', '.'] := .inr (by decide)
  have hpoint : '.'.isDigit = true ∨ '.' ∈ [':', '.'] := .inr (by decide)
  cases hwrites with
  | minutes _ _ =>
    simp only [List.forall_mem_append, List.forall_mem_cons]
    exact ⟨hdigits _ _, hcolon, hdigits _ _⟩
  | seconds _ _ _ =>
    simp only [List.forall_mem_append, List.forall_mem_cons]
    exact ⟨hdigits _ _, hcolon, hdigits _ _, hcolon, hdigits _ _⟩
  | micros _ _ _ _ =>
    simp only [List.forall_mem_append, List.forall_mem_cons]
    exact ⟨hdigits _ _, hcolon, hdigits _ _, hcolon, hdigits _ _, hpoint, hdigits _ _⟩

/-- **The mark of an offset** ends the time in front of it. -/
theorem WritesClock.clockLength_eq (hwrites : WritesClock cs clock)
    (hrest : ∀ c ∈ rest.head?, c = '+' ∨ c = '-') : clockLength (cs ++ rest) = cs.length := by
  have hkept : ∀ c ∈ cs, (!(c == '+' || c == '-' || c == 'Z')) = true := by
    intro c hc
    rcases hwrites.chars c hc with hdigit | hmark
    · have hplus := beq_eq_false_of_isDigit hdigit '+' rfl
      have hminus := beq_eq_false_of_isDigit hdigit '-' rfl
      have hzulu := beq_eq_false_of_isDigit hdigit 'Z' rfl
      simp [hplus, hminus, hzulu]
    · simp only [List.mem_cons, List.not_mem_nil, or_false] at hmark
      rcases hmark with rfl | rfl <;> decide
  have hstop : rest.takeWhile (fun c => !(c == '+' || c == '-' || c == 'Z')) = [] := by
    cases rest with
    | nil => rfl
    | cons c rest =>
      rcases hrest c rfl with rfl | rfl
      · rfl
      · rfl
  rw [clockLength, List.takeWhile_append_of_pos hkept, hstop, List.append_nil]

/-- **An offset in microseconds**, as it is read off its fields. Where the hours, minutes and
seconds are zero, the fraction is not looked at. -/
def offsetMicros (negative : Bool) (clock : Clock) : Int :=
  let seconds := (clock.1 * 60 + clock.2.1) * 60 + clock.2.2.1
  let size : Int := if seconds = 0 then 0 else seconds * 1000000 + clock.2.2.2
  if negative then -size else size

/-- A time without an offset is read back. -/
theorem WritesClock.time?_eq (hwrites : WritesClock cs clock) : time? cs = some (clock, none) := by
  have hlength : clockLength cs = cs.length := by
    have h : clockLength (cs ++ []) = cs.length := hwrites.clockLength_eq (by simp)
    rwa [List.append_nil] at h
  rw [time?, hlength, hwrites.clock?_self, List.drop_length]
  rfl

/-- **A time with an offset** is read back, its offset as hours, minutes and seconds with a
fraction. -/
theorem WritesClock.time?_append_eq (hwrites : WritesClock cs clock) {offset : Clock}
    (hoffset : WritesClock os offset) (negative : Bool) :
    time? (cs ++ (if negative then '-' else '+') :: os) =
      some (clock, some (offsetMicros negative offset)) := by
  have hmark : ∀ c ∈ ((if negative then '-' else '+') :: os).head?, c = '+' ∨ c = '-' := by
    intro c hc
    obtain rfl := Option.mem_some_iff.mp hc
    cases negative with
    | true => exact .inr rfl
    | false => exact .inl rfl
  have hdigit : ∀ c ∈ ((if negative then '-' else '+') :: os).head?, c.isDigit = false := by
    intro c hc
    rcases hmark c hc with rfl | rfl
    · rfl
    · rfl
  have hread := hoffset.clock?_self
  rw [time?, hwrites.clockLength_eq hmark, hwrites.clock?_eq hdigit, List.drop_left]
  obtain ⟨h, m, s, micro⟩ := offset
  cases negative with
  | true => simp [hread, offsetMicros]
  | false => simp [hread, offsetMicros]

/-! ### The parts of a moment -/

/-- The characters of a time of day. -/
def timeChars (t : TimeOfDay) : List Char :=
  paddedDigits 2 t.hour ++ ':' :: (paddedDigits 2 t.minute ++ ':' :: (paddedDigits 2 t.second ++
    if t.micro = 0 then [] else '.' :: paddedDigits 6 t.micro))

theorem writesClock_timeChars (t : TimeOfDay) :
    WritesClock (timeChars t) (t.hour, t.minute, t.second, t.micro) := by
  obtain ⟨hhour, hminute, hsecond, hmicro⟩ := t.valid
  rw [timeChars]
  by_cases hzero : t.micro = 0
  · rw [if_pos hzero, hzero, List.append_nil]
    exact .seconds (by omega) (by omega) (by omega)
  · rw [if_neg hzero]
    exact .micros (by omega) (by omega) (by omega) (by omega)

/-- The fields of an offset without its sign. -/
def offsetClock (o : Offset) : Clock :=
  let seconds := o.micros.natAbs / 1000000
  (seconds / 3600, seconds / 60 % 60, seconds % 60, o.micros.natAbs % 1000000)

/-- **An offset is written** as a sign and a clock. -/
theorem exists_offsetChars_eq (o : Offset) : ∃ os, WritesClock os (offsetClock o) ∧
    Moment.offsetChars o = (if decide (o.micros < 0) then '-' else '+') :: os := by
  obtain ⟨hlow, hhigh⟩ := o.valid
  have hsize : o.micros.natAbs < 86400000000 := by
    rw [microsPerDay] at hlow hhigh
    omega
  have hhour : o.micros.natAbs / 1000000 / 3600 < 10 ^ 2 := by omega
  have hminute : o.micros.natAbs / 1000000 / 60 % 60 < 10 ^ 2 := by omega
  have hsecond : o.micros.natAbs / 1000000 % 60 < 10 ^ 2 := by omega
  have hmicro : o.micros.natAbs % 1000000 < 10 ^ 6 := by omega
  simp only [offsetClock, Moment.offsetChars, decide_eq_true_eq]
  generalize o.micros.natAbs / 1000000 / 3600 = h at hhour ⊢
  generalize o.micros.natAbs / 1000000 / 60 % 60 = m at hminute ⊢
  generalize o.micros.natAbs / 1000000 % 60 = s at hsecond ⊢
  generalize o.micros.natAbs % 1000000 = micro at hmicro ⊢
  by_cases hmicros : micro = 0
  · subst hmicros
    by_cases hseconds : s = 0
    · subst hseconds
      exact ⟨_, .minutes hhour hminute, by simp⟩
    · exact ⟨_, .seconds hhour hminute hsecond, by simp [hseconds]⟩
  · exact ⟨_, .micros hhour hminute hsecond hmicro, by simp [hmicros]⟩

/-- **The separator** stands behind the ten characters of a date. -/
theorem separatorAt_isoChars (d : Date) (rest : List Char) :
    separatorAt (d.isoChars ++ rest) = 10 := by
  obtain ⟨hyear, hmonth, -⟩ := date_lt d
  have hlength : (d.isoChars ++ rest).length ≠ 7 := by
    rw [List.length_append, length_isoChars]
    omega
  have hhyphen : (d.isoChars ++ rest).drop 4 =
      '-' :: (paddedDigits 2 d.month ++ '-' :: (paddedDigits 2 d.day ++ rest)) := by
    rw [isoChars_append]
    exact List.drop_left' (length_paddedDigits (by decide) hyear)
  have hmore : (d.isoChars ++ rest).drop 5 =
      paddedDigits 2 d.month ++ '-' :: (paddedDigits 2 d.day ++ rest) := by
    rw [← List.drop_drop (i := 1) (j := 4), hhyphen]
    rfl
  have hweek := beq_eq_false_of_isDigit
    (isDigit_peek_paddedDigits (by decide) hmonth ('-' :: (paddedDigits 2 d.day ++ rest))) 'W' rfl
  simp only [separatorAt, if_neg hlength, hhyphen, hmore, peek_cons, beq_self_eq_true, hweek,
    if_true, Bool.false_eq_true, if_false]

end Iso

/-! ### Texts of dates and moments -/

theorem Date.of_fields (d : Date) : Date.of d.year d.month d.day = .ok d := by
  simp only [of, Int.toNat_natCast, dif_pos d.valid]

theorem TimeOfDay.of_fields (t : TimeOfDay) :
    TimeOfDay.of t.hour t.minute t.second t.micro = .ok t :=
  dif_pos t.valid

theorem Offset.of_micros (o : Offset) : Offset.of o.micros = .ok o :=
  dif_pos o.valid

/-- **The offset that comes back**: one of less than a second comes back as none from universal
time. -/
def Offset.readBack (o : Offset) : Offset :=
  if o.micros.natAbs < 1000000 then ⟨0, by decide⟩ else o

/-- The moment that comes back. -/
def Moment.readBack (m : Moment) : Moment :=
  { m with offset := m.offset.map Offset.readBack }

/-- The temporal value that comes back. -/
def Temporal.readBack : Temporal → Temporal
  | .day d => .day d
  | .moment m => .moment m.readBack

/-- The fields of an offset give back its microseconds, unless it is less than a second. -/
theorem Offset.offsetMicros_offsetClock (o : Offset) :
    Iso.offsetMicros (decide (o.micros < 0)) (Iso.offsetClock o) = o.readBack.micros := by
  have hback : o.readBack.micros = if o.micros.natAbs < 1000000 then 0 else o.micros := by
    rw [readBack]
    split_ifs
    · rfl
    · rfl
  -- Hours, minutes and seconds of the whole seconds together are the whole seconds again.
  have hseconds : ∀ n : Nat, (n / 3600 * 60 + n / 60 % 60) * 60 + n % 60 = n := by
    intro n
    omega
  rw [hback]
  simp only [Iso.offsetMicros, Iso.offsetClock, hseconds, decide_eq_true_eq]
  split_ifs <;> omega

theorem Moment.isoChars_eq (m : Moment) :
    m.isoChars =
      m.date.isoChars ++ 'T' :: (Iso.timeChars m.time ++ m.offset.elim [] offsetChars) := by
  simp [isoChars, Iso.timeChars]

/-- **The time of a moment** is read back with its offset. -/
theorem Moment.time?_eq (m : Moment) :
    Iso.time? (Iso.timeChars m.time ++ m.offset.elim [] offsetChars) =
      some ((m.time.hour, m.time.minute, m.time.second, m.time.micro),
        m.readBack.offset.map Offset.micros) := by
  have htime := Iso.writesClock_timeChars m.time
  rw [readBack]
  cases m.offset with
  | none =>
    rw [Option.elim_none, List.append_nil]
    exact htime.time?_eq
  | some o =>
    obtain ⟨os, hwrites, heq⟩ := Iso.exists_offsetChars_eq o
    rw [Option.elim_some, heq, htime.time?_append_eq hwrites, o.offsetMicros_offsetClock]
    rfl

/-- A character of an ISO text. -/
def IsIsoChar (c : Char) : Prop :=
  c.isDigit = true ∨ c ∈ ['-', 'T', ':', '.', '+']

theorem IsIsoChar.ascii {c : Char} (h : IsIsoChar c) : c.toNat < 128 ∧ Text.isBlank c = false := by
  rcases h with hdigit | hmark
  · have hcode := toNat_of_isDigit hdigit
    exact ⟨by omega, isBlank_of_isDigit hdigit⟩
  · simp only [List.mem_cons, List.not_mem_nil, or_false] at hmark
    rcases hmark with rfl | rfl | rfl | rfl | rfl <;> decide

theorem Date.isIsoChar_of_mem {d : Date} {c : Char} (h : c ∈ d.isoChars) : IsIsoChar c := by
  simp only [isoChars, List.mem_append, List.mem_cons] at h
  rcases h with (h | rfl | h) | rfl | h
  · exact .inl (isDigit_of_mem_paddedDigits h)
  · exact .inr (by simp)
  · exact .inl (isDigit_of_mem_paddedDigits h)
  · exact .inr (by simp)
  · exact .inl (isDigit_of_mem_paddedDigits h)

theorem Iso.WritesClock.isIsoChar_of_mem {cs : List Char} {clock : Iso.Clock}
    (h : Iso.WritesClock cs clock) {c : Char} (hc : c ∈ cs) : IsIsoChar c := by
  refine (h.chars c hc).imp_right fun hmark => ?_
  simp only [List.mem_cons, List.not_mem_nil, or_false] at hmark
  rcases hmark with rfl | rfl <;> decide

theorem Moment.isIsoChar_of_mem {m : Moment} {c : Char} (h : c ∈ m.isoChars) : IsIsoChar c := by
  rw [isoChars_eq] at h
  rcases List.mem_append.mp h with h | h
  · exact Date.isIsoChar_of_mem h
  · rcases List.mem_cons.mp h with rfl | h
    · exact .inr (by simp)
    · rcases List.mem_append.mp h with h | h
      · exact (Iso.writesClock_timeChars m.time).isIsoChar_of_mem h
      · cases hoffset : m.offset with
        | none =>
          rw [hoffset] at h
          exact absurd h List.not_mem_nil
        | some o =>
          obtain ⟨os, hwrites, heq⟩ := Iso.exists_offsetChars_eq o
          rw [hoffset, Option.elim_some, heq] at h
          rcases List.mem_cons.mp h with rfl | h
          · right
            split_ifs <;> simp
          · exact hwrites.isIsoChar_of_mem h

/-- **The text of a date is read back.** -/
theorem readDate_isoText (d : Date) : readDate d.isoText = .ok d := by
  have hoctets : Iso.octets d.isoText = d.isoChars :=
    Iso.octets_ofList fun c hc => (Date.isIsoChar_of_mem hc).ascii.1
  have hfields : Iso.dateFields? 10 d.isoChars = some (d.year, d.month, d.day) := by
    have h := Iso.dateFields?_isoChars 10 d []
    rwa [List.append_nil] at h
  have hlength := Iso.length_isoChars d
  rw [readDate, hoctets]
  simp only [hlength, hfields, or_true, if_true]
  exact d.of_fields

/-- **The text of a moment is read back**, up to an offset of less than a second. -/
theorem readMoment_isoText (m : Moment) : readMoment m.isoText = .ok m.readBack := by
  have hoctets : Iso.octets m.isoText = m.isoChars :=
    Iso.octets_ofList fun c hc => (Moment.isIsoChar_of_mem hc).ascii.1
  have hdrop : m.isoChars.drop 10 =
      'T' :: (Iso.timeChars m.time ++ m.offset.elim [] Moment.offsetChars) := by
    rw [m.isoChars_eq]
    exact List.drop_left' (Iso.length_isoChars m.date)
  have hstop : Iso.separatorAt m.isoChars = 10 := by
    rw [m.isoChars_eq]
    exact Iso.separatorAt_isoChars ..
  have hfields : Iso.dateFields? 10 m.isoChars =
      some (m.date.year, m.date.month, m.date.day) := by
    rw [m.isoChars_eq]
    exact Iso.dateFields?_isoChars ..
  have hone : Iso.octetCount 'T' = 1 := by decide
  rw [readMoment, hoctets]
  simp only [hstop, hfields, hdrop, Iso.peek_cons, hone, List.drop_succ_cons, List.drop_zero,
    m.time?_eq, Option.bind_eq_bind, Option.bind_some, List.isEmpty_cons, Bool.false_eq_true,
    if_false, m.date.of_fields, m.time.of_fields]
  cases hoffset : m.readBack.offset with
  | none =>
    have hmoment : m.readBack = ⟨m.date, m.time, none⟩ := hoffset ▸ rfl
    rw [hmoment]
    rfl
  | some o =>
    have hmoment : m.readBack = ⟨m.date, m.time, some o⟩ := hoffset ▸ rfl
    simp only [Option.map_some, o.of_micros]
    rw [hmoment]
    rfl

/-- Trimming leaves an ISO text as it is. -/
theorem trim_ofList {cs : List Char} (h : ∀ c ∈ cs, IsIsoChar c) :
    Text.trim (String.ofList cs) = String.ofList cs := by
  rw [Text.trim, String.toList_ofList, trimChars_eq_self fun c hc => (h c hc).ascii.2]

/-- **The text of a date or moment is read back**, and the length of the text tells which of the two
it is. Nothing is lost but an offset of less than a second. -/
theorem ofText_isoText (t : Temporal) : Temporal.ofText t.isoText = .ok t.readBack := by
  cases t with
  | day d =>
    have htrim : Text.trim d.isoText = d.isoText := trim_ofList fun c => Date.isIsoChar_of_mem
    have hlength : d.isoText.length = 10 := String.length_ofList.trans (Iso.length_isoChars d)
    simp only [Temporal.ofText, Temporal.isoText, htrim, hlength, readDate_isoText]
    rfl
  | moment m =>
    have htrim : Text.trim m.isoText = m.isoText := trim_ofList fun c => Moment.isIsoChar_of_mem
    have hlength : 10 < m.isoText.length := by
      rw [Moment.isoText, String.length_ofList, m.isoChars_eq, List.length_append,
        Iso.length_isoChars, List.length_cons]
      omega
    simp only [Temporal.ofText, Temporal.isoText, htrim, if_pos hlength, readMoment_isoText]
    rfl

/-! ### Different texts -/

/-- The fields of an offset tell its size. -/
theorem Iso.natAbs_eq_of_offsetClock {o o' : Offset} (h : offsetClock o = offsetClock o') :
    o.micros.natAbs = o'.micros.natAbs := by
  simp only [offsetClock, Prod.mk.injEq] at h
  omega

/-- **The text of an offset tells the offset**, also one of less than a second. -/
theorem Moment.offsetChars_injective : Function.Injective offsetChars := by
  intro o o' h
  obtain ⟨os, hwrites, heq⟩ := Iso.exists_offsetChars_eq o
  obtain ⟨os', hwrites', heq'⟩ := Iso.exists_offsetChars_eq o'
  obtain ⟨hsign, rfl⟩ := List.cons.inj (heq.symm.trans (h.trans heq'))
  have hclock := hwrites.clock?_self
  rw [hwrites'.clock?_self] at hclock
  have hsize := Iso.natAbs_eq_of_offsetClock (congrArg Prod.fst (Option.some.inj hclock)).symm
  have hnegative : decide (o.micros < 0) = decide (o'.micros < 0) := by
    revert hsign
    cases decide (o.micros < 0) <;> cases decide (o'.micros < 0) <;> simp
  have hmicros : o.micros = o'.micros := by
    rw [decide_eq_decide] at hnegative
    omega
  cases o
  cases o'
  simpa using hmicros

/-- **Different dates and moments have different texts.** An offset of less than a second, which
reading loses, is there in the text. -/
theorem Temporal.isoText_injective : Function.Injective Temporal.isoText := by
  intro t u h
  have hread : t.readBack = u.readBack := by
    have hok := congrArg Temporal.ofText h
    rw [ofText_isoText, ofText_isoText] at hok
    exact Except.ok.inj hok
  cases t with
  | day d =>
    cases u with
    | day d' => exact hread
    | moment m' => cases hread
  | moment m =>
    cases u with
    | day d' => cases hread
    | moment m' =>
      -- Reading tells the date and the time, so that what is left of the texts are the offsets.
      have hback : m.readBack = m'.readBack := Temporal.moment.inj hread
      obtain ⟨hdate, htime, -⟩ := Moment.mk.inj hback
      have hchars : m.isoChars = m'.isoChars := String.ofList_injective h
      rw [m.isoChars_eq, m'.isoChars_eq, hdate, htime] at hchars
      have hoffset := List.append_cancel_left (List.cons.inj (List.append_cancel_left hchars)).2
      obtain ⟨date, time, offset⟩ := m
      obtain ⟨date', time', offset'⟩ := m'
      obtain rfl : date = date' := hdate
      obtain rfl : time = time' := htime
      have hne : ∀ o, Moment.offsetChars o ≠ [] := by
        intro o
        obtain ⟨os, -, heq⟩ := Iso.exists_offsetChars_eq o
        rw [heq]
        exact List.cons_ne_nil _ _
      cases offset with
      | none =>
        cases offset' with
        | none => rfl
        | some o' => exact absurd hoffset.symm (hne o')
      | some o =>
        cases offset' with
        | none => exact absurd hoffset (hne o)
        | some o' => rw [Moment.offsetChars_injective hoffset]

end RuleFlow.Calendar
