import QueryTree.Time.Calendar

/-! Every day number has a date of the calendar, which leads back to it. -/
namespace QueryTree.Time

def yearInCycle (inCycle : Int) : Int :=
  (inCycle - inCycle / 1460 + inCycle / 36524 - inCycle / 146096) / 365

def yearStart (year : Int) : Int := 365 * year + year / 4 - year / 100

theorem yearInCentury {day : Int} (low : 0 ≤ day) (high : day < 146096) :
    yearInCycle day / 100 = day / 36524 ∧ 0 ≤ yearInCycle day ∧ yearInCycle day ≤ 399 := by
  -- Left out is the last day of the cycle, a leap day that no century has room for.
  have century : day / 36524 = 0 ∨ day / 36524 = 1 ∨ day / 36524 = 2 ∨ day / 36524 = 3 := by omega
  unfold yearInCycle
  rcases century with first | second | third | fourth <;> omega

theorem yearStarted {day : Int} (low : 0 ≤ day) (high : day < 146096) :
    yearStart (yearInCycle day) ≤ day := by
  obtain ⟨century, _, _⟩ := yearInCentury low high
  have fewer : day / 36524 ≤ day / 1460 := by omega
  unfold yearStart yearInCycle at *
  omega

theorem yearNotOver {day : Int} (low : 0 ≤ day) (high : day < 146096) :
    day ≤ yearStart (yearInCycle day) + 365 := by
  obtain ⟨century, _, _⟩ := yearInCentury low high
  unfold yearStart yearInCycle at *
  omega

theorem yearWithLeapDay {day : Int} (low : 0 ≤ day) (high : day < 146096)
    (last : day = yearStart (yearInCycle day) + 365) :
    (yearInCycle day + 1) % 4 = 0 ∧ (yearInCycle day + 1) % 100 ≠ 0 := by
  obtain ⟨century, _, _⟩ := yearInCentury low high
  unfold yearStart at last
  have passed : yearInCycle day / 4 + 1 ≤ day / 1460 := by
    unfold yearInCycle at *
    omega
  have fourth : yearInCycle day % 4 = 3 := by omega
  omega

def Date.inYear (year day : Int) : Date :=
  let month := (5 * day + 2) / 153
  let dayOfMonth := day - (153 * month + 2) / 5 + 1
  if month < 10 then ⟨year, (month + 3).toNat, dayOfMonth.toNat⟩
  else ⟨year + 1, (month - 9).toNat, dayOfMonth.toNat⟩

structure InYear (year day : Int) : Prop where
  low : 0 ≤ day
  high : day ≤ 365
  leap : day = 365 → isLeapYear (year + 1) = true

theorem inYearValid {year day : Int} (inside : InYear year day) : (Date.inYear year day).Valid := by
  obtain ⟨low, high, leap⟩ := inside
  unfold Date.inYear
  by_cases early : (5 * day + 2) / 153 < 10
  · simp only [early, if_true, Date.Valid]
    refine ⟨⟨by omega, by omega⟩, by omega, ?_⟩
    unfold daysInMonth
    split
    · omega
    · split <;> omega
  · simp only [early, if_false, Date.Valid]
    refine ⟨⟨by omega, by omega⟩, by omega, ?_⟩
    unfold daysInMonth
    split
    · split
      · omega
      · rename_i february common
        have short : day ≠ 365 := fun last => common (leap last)
        omega
    · split <;> omega

theorem inYearNumber {year day : Int} (inside : InYear year day) :
    (Date.inYear year day).dayNumber =
      365 * year + year / 4 - year / 100 + year / 400 + day - epochShift := by
  obtain ⟨low, high, leap⟩ := inside
  have months : 0 ≤ (5 * day + 2) / 153 ∧ (5 * day + 2) / 153 ≤ 11 := by omega
  have days : 0 ≤ day - (153 * ((5 * day + 2) / 153) + 2) / 5 := by omega
  unfold Date.inYear Date.dayNumber
  by_cases early : (5 * day + 2) / 153 < 10
  · have late : ¬ ((5 * day + 2) / 153 + 3).toNat ≤ 2 := by omega
    simp only [early, if_true, late, if_false]
    omega
  · have late : ((5 * day + 2) / 153 - 9).toNat ≤ 2 := by omega
    simp only [early, if_false, late, if_true]
    omega

structure Placed (number cycle year day : Int) : Prop where
  inYear : InYear (year + 400 * cycle) day
  low : 0 ≤ year
  high : year ≤ 399
  sum : number + epochShift = 146097 * cycle + yearStart year + day

theorem leapYearOf {year cycle : Int} (fourth : (year + 1) % 4 = 0)
    (century : (year + 1) % 100 ≠ 0 ∨ (year + 1) % 400 = 0) :
    isLeapYear (year + 400 * cycle + 1) = true := by
  unfold isLeapYear
  rw [decide_eq_true_eq]
  omega

theorem dayPlaced {number cycle day : Int} (low : 0 ≤ day) (high : day < 146097)
    (sum : number + epochShift = 146097 * cycle + day) :
    Placed number cycle (yearInCycle day) (day - yearStart (yearInCycle day)) := by
  -- the last day of the cycle apart: the fourth century is one day longer than the others
  by_cases ordinary : day < 146096
  · obtain ⟨_, lowYear, highYear⟩ := yearInCentury low ordinary
    have started := yearStarted low ordinary
    have notOver := yearNotOver low ordinary
    refine ⟨⟨by omega, by omega, fun last => ?_⟩, lowYear, highYear, by omega⟩
    obtain ⟨fourth, noCentury⟩ := yearWithLeapDay low ordinary (by omega)
    exact leapYearOf fourth (.inl noCentury)
  · obtain rfl : day = 146096 := by omega
    have year : yearInCycle 146096 = 399 := rfl
    have start : yearStart 399 = 145731 := rfl
    rw [year, start]
    exact ⟨⟨by omega, by omega, fun _ => leapYearOf (by omega) (.inr (by omega))⟩, by omega,
      by omega, by omega⟩

theorem ofDayNumberPlaced (number : Int) :
    ∃ cycle year day : Int, Placed number cycle year day ∧
      Date.ofDayNumber number = Date.inYear (year + 400 * cycle) day := by
  have low : 0 ≤ (number + epochShift) % 146097 := by omega
  have high : (number + epochShift) % 146097 < 146097 := by omega
  exact ⟨(number + epochShift) / 146097, _, _, dayPlaced low high (by omega), rfl⟩

theorem ofDayNumberValid (number : Int) : (Date.ofDayNumber number).Valid := by
  obtain ⟨cycle, year, day, placed, same⟩ := ofDayNumberPlaced number
  rw [same]
  exact inYearValid placed.inYear

theorem ofDayNumberBack (number : Int) : (Date.ofDayNumber number).dayNumber = number := by
  obtain ⟨cycle, year, day, placed, same⟩ := ofDayNumberPlaced number
  obtain ⟨inside, low, high, sum⟩ := placed
  rw [same, inYearNumber inside]
  unfold yearStart at sum
  omega

end QueryTree.Time
