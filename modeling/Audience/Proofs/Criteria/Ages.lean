import Audience.Criteria.OfEntities
import Audience.Proofs.Stored.DateOrder

set_option autoImplicit false

/-! # Ages as birth dates

The two dates that stand for a range of ages hold a day of birth between them, in the order of texts, exactly
when whoever was born on that day comes to such an age in the year (`birthDates?_spec`). An age range that a
sentence mentions and one that is put forward as a condition become the same condition on birth dates. -/

namespace Audience

namespace Calendar

variable {year y : Nat} {date : String}

/-- The first day of a year comes before the other days of the year, and those of the years after it. -/
theorem first_le_iff (hyear : year ≤ 9999) (hdate : IsDateOf y date.toList) :
    .ofList (yearText year ++ "-01-01".toList) ≤ date ↔ year ≤ y := by
  obtain ⟨htext, rest, hread⟩ := hdate
  obtain ⟨month, day, hrest, hday⟩ := (isDateText_iff hread).1 htext
  have hfirst : monthDay? "-01-01".toList = some (1, 1, []) := by decide
  have hbounds := isDate_bounds hday
  rw [String.le_iff_toList_le, String.toList_ofList,
    date_le_iff (number?_yearText hyear _) hfirst hread hrest]
  omega

/-- The last day of a year comes after the other days of the year, and those of the years before it. -/
theorem le_last_iff (hyear : year ≤ 9999) (hdate : IsDateOf y date.toList) :
    date ≤ .ofList (yearText year ++ "-12-31".toList) ↔ y ≤ year := by
  obtain ⟨htext, rest, hread⟩ := hdate
  obtain ⟨month, day, hrest, hday⟩ := (isDateText_iff hread).1 htext
  have hlast : monthDay? "-12-31".toList = some (12, 31, []) := by decide
  have hbounds := isDate_bounds hday
  rw [String.le_iff_toList_le, String.toList_ofList,
    date_le_iff hread hrest (number?_yearText hyear _) hlast]
  omega

end Calendar

section BirthDates

variable {year : Int} {a b : Int64} {first last : String}

theorem birthDates?_comm (year : Int) (a b : Int64) : birthDates? year a b = birthDates? year b a := by
  simp only [birthDates?, Int.min_comm, Int.max_comm]

/-- A day is between the birth dates of an age range when whoever is born then comes to one of the ages. -/
theorem mem_birthDates_iff (hlow : maxAge ≤ year) (hhigh : year ≤ 9999)
    (h : birthDates? year a b = some (first, last)) {date : String} {y : Nat}
    (hdate : Calendar.IsDateOf y date.toList) :
    first ≤ date ∧ date ≤ last ↔
      min a.toInt b.toInt ≤ year - y ∧ year - y ≤ max a.toInt b.toInt := by
  obtain ⟨⟨hmin, hmax⟩, rfl, rfl⟩ := birthDates?_eq_some_iff.1 h
  obtain ⟨oldest, holdest⟩ := Int.eq_ofNat_of_zero_le (a := year - max a.toInt b.toInt) (by omega)
  obtain ⟨youngest, hyoungest⟩ := Int.eq_ofNat_of_zero_le (a := year - min a.toInt b.toInt) (by omega)
  rw [holdest, hyoungest, Calendar.first_le_iff (by omega) hdate, Calendar.le_last_iff (by omega) hdate]
  omega

end BirthDates

namespace Criteria

section Paths

variable {s : Setting} {first last : String}

/-- A condition that asks for birth dates is one on these, whatever else it says. -/
theorem Attribute.run_normalize_of_birthDates {a : Attribute}
    (h : a.birthDates? s.year = some (first, last)) (fallback : Dataset) (cache : Mapping.Cache) :
    (a.normalize s fallback).run cache
      = (⟨some (a.datasetOr fallback), a.field, some "between", .text first, .text last⟩, cache) := by
  unfold Attribute.normalize
  dsimp only
  rw [h]
  rfl

theorem Attribute.run_ofEntity_of_birthDates {dataset field operator : String} {value value2 : Scalar}
    (h : (Attribute.mk (some dataset) (some field) (some operator) value value2).birthDates? s.year
      = some (first, last)) (cache : Mapping.Cache) :
    (Attribute.ofEntity s dataset field operator value value2).run cache
      = (⟨some dataset, some field, some "between", .text first, .text last⟩, cache) := by
  unfold Attribute.ofEntity
  dsimp only
  rw [h]
  rfl

/-- A condition on birth dates that asks for an age range. -/
def ageRange (a b : Int64) : Attribute :=
  ⟨some "customers", some "birth_date", some ageBetween, .int a, .int b⟩

/-- A condition on birth dates that asks for the days from one to another. -/
def bornBetween (first last : String) : Attribute :=
  ⟨some "customers", some "birth_date", some "between", .text first, .text last⟩

theorem ageRange_birthDates? (year : Int) (a b : Int64) :
    (ageRange a b).birthDates? year = birthDates? year a b := by
  simp [ageRange, Attribute.birthDates?, Scalar.int64?]

theorem run_normalize_ageRange {a b : Int64} (h : birthDates? s.year a b = some (first, last))
    (cache : Mapping.Cache) :
    (Condition.normalize s (.attribute (ageRange a b))).run cache
      = (.attribute (bornBetween first last), cache) := by
  have hdates := (ageRange_birthDates? s.year a b).trans h
  simp only [Condition.normalize, StateT.run_bind, Attribute.run_normalize_of_birthDates hdates]
  rfl

theorem run_ofEntity_ageRange {a b : Int64} (h : birthDates? s.year a b = some (first, last))
    (cache : Mapping.Cache) :
    (Condition.ofEntity s
      (.attribute "customers" "birth_date" ageBetween (.int a) (.int b))).run cache
      = (.attribute (bornBetween first last), cache) := by
  have hdates := (ageRange_birthDates? s.year a b).trans h
  simp only [Condition.ofEntity, StateT.run_bind, Attribute.run_ofEntity_of_birthDates hdates]
  rfl

end Paths

/-- **Ages are birth dates.** In a year in which everyone was born in a year of four digits, two numbers in
either order have birth dates when both are ages. A day is between these dates, in the order of texts, when
whoever is born on it comes to an age between the numbers in the year. An entity and a condition that ask for
the ages both become the condition on these dates, and leave the cache as it is. -/
theorem birthDates?_spec {year : Int} (hlow : 150 ≤ year) (hhigh : year ≤ 9999) (a b : Int64) :
    (birthDates? year a b = none ↔ min a.toInt b.toInt < 0 ∨ 150 < max a.toInt b.toInt) ∧
      birthDates? year a b = birthDates? year b a ∧
      ∀ first last, birthDates? year a b = some (first, last) →
        (∀ (date : String) (y : Nat), Calendar.IsDateOf y date.toList →
          (first ≤ date ∧ date ≤ last ↔
            min a.toInt b.toInt ≤ year - y ∧ year - y ≤ max a.toInt b.toInt)) ∧
        ∀ (s : Setting) (cache : Mapping.Cache), s.year = year →
          (Condition.ofEntity s
            (.attribute "customers" "birth_date" ageBetween (.int a) (.int b))).run cache
            = (.attribute (bornBetween first last), cache) ∧
          (Condition.normalize s (.attribute (ageRange a b))).run cache
            = (.attribute (bornBetween first last), cache) := by
  refine ⟨?_, birthDates?_comm year a b, fun first last h => ⟨?_, ?_⟩⟩
  · rw [birthDates?_eq_none_iff, maxAge]
    omega
  · exact fun date y hdate => mem_birthDates_iff hlow hhigh h hdate
  · rintro s cache rfl
    exact ⟨run_ofEntity_ageRange h cache, run_normalize_ageRange h cache⟩

/-- Whoever was born on the last day of February in 2000 is twenty-five in 2025, and is found among those
from thirty to twenty. -/
theorem birthDates?_spec_leap_day :
    birthDates? 2025 30 20 = some ("1995-01-01", "2005-12-31") ∧
      Calendar.IsDateOf 2000 "2000-02-29".toList ∧
      ("1995-01-01" ≤ "2000-02-29" ∧ "2000-02-29" ≤ "2005-12-31") := by
  obtain ⟨-, -, h⟩ := birthDates?_spec (show (150 : Int) ≤ 2025 by decide) (by decide) 30 20
  have hdates : birthDates? 2025 30 20 = some ("1995-01-01", "2005-12-31") := by decide +kernel
  have hdate : Calendar.IsDateOf 2000 "2000-02-29".toList := ⟨by decide +kernel, "-02-29".toList, by decide⟩
  exact ⟨hdates, hdate, ((h _ _ hdates).1 _ _ hdate).2 (by decide)⟩

end Criteria

end Audience
