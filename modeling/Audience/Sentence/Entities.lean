import Audience.AgeRange
import Audience.Catalog
import Audience.Mapping.Rules
import Audience.Sentence.Entity
import Audience.Sentence.Synonyms
import Audience.Text.Lower

set_option autoImplicit false

/-! # Reading sentences

A sentence is read for six things, each at most once: a gender, a place, an age range, how often
something was bought, what was spent, and a category of products. They are looked for independently,
in a text in lower case with synonyms replaced, and come in that order. -/

namespace Audience.Sentence

/-- A condition that a customer column equals a text. -/
def equals (dataset : Dataset) (field : String) (value : List Char) : Entity :=
  .attribute dataset.name field "equals" (.text (.ofList value)) .null

/-! ## Gender -/

/-- A word for a gender. -/
def genderCue : Pattern :=
  seqs [.boundary, .group 1 (anyOf ["female", "male"]), .boundary]

/-- The gender that a text mentions. -/
def gender? (cs : List Char) : Option Entity := do
  let m ← genderCue.search? cs
  return equals .customers "gender" m.text

/-! ## Place -/

/-- Words that a place comes after. -/
def placeCue : Pattern :=
  seqs [.boundary, anyOf ["living in", "located in", "based in", "in", "at", "from"], blanks]

/-- What ends the name of a place: punctuation, or a word that begins something else. -/
def placeEnd : Pattern :=
  .alt (.char fun c => [',', '.', ';', ':', '!', '?', '(', ')'].contains c)
    (seqs [.boundary,
      anyOf ["who", "whom", "that", "which", "with", "and", "or", "aged", "age", "purchased",
        "spent", "paid", "between", "from", "in", "at", "within", "during", "since"],
      .boundary])

/-- Words that speak of a time or a quantity, and never begin the name of a place. -/
def nonPlaceLeads : List String :=
  ["the", "last", "past", "within", "least", "most", "a", "an", "all", "this"]

/-- The name of a place at the start of a text. -/
def placeAt? (cs : List Char) : Option (List Char) :=
  if (cs.head?.any Char.isDigit) then none
  else if nonPlaceLeads.contains (.ofList ((Text.words cs).headD [])) then none
  else
    let name := Text.trim (placeEnd.before cs)
    if name.length ≤ 1 then none else some name

/-- The place that a text mentions: after the first cue that has the name of one after it. -/
def place? (cs : List Char) : Option Entity :=
  ((placeCue.matches cs).findSome? fun m => placeAt? m.rest).map (equals .customers "city")

/-! ## Age -/

/-- A number of up to three digits. -/
def ageNumber (n : Nat) : Pattern :=
  .group n (.run Text.isDigit 1 (some 3))

/-- Two ages with a word or a dash between them. -/
def agePair : Pattern :=
  seqs [ageNumber 1, gap, anyOf ["to", "and", "-"], gap, ageNumber 2]

/-- An age range after the word "age". -/
def ageAfterCue : Pattern :=
  seqs [.boundary, lit "age", .opt (lit "d"), blanks,
    .opt (.alt (.seq (lit "from") blanks) (.seq (lit "between") blanks)), agePair, .boundary]

/-- An age range before the word "years". -/
def ageBeforeYears : Pattern :=
  seqs [.boundary, anyOf ["from", "between"], blanks, agePair, gap,
    .alt (plural "year") (plural "yr"), .boundary]

/-- The integer that a group of a match writes. -/
def Match.int64? (m : Match) (n : Nat) : Option Int64 :=
  (m.group? n).bind Number.readInt64?

/-- The age range that a text mentions. -/
def ageRange? (cs : List Char) : Option Entity := do
  let m ← (ageAfterCue.search? cs).or (ageBeforeYears.search? cs)
  let a ← m.int64? 1
  let b ← m.int64? 2
  return .attribute Dataset.customers.name "birth_date" ageBetween (.int (min a b)) (.int (max a b))

/-! ## Windows -/

/-- The name of a unit of time. -/
def unitWord (n : Nat) : Pattern :=
  .group n (firstOf [plural "day", plural "week", plural "month"])

/-- A number of units and the unit, where the number may be left out. -/
def unitCount (count unit : Nat) : Pattern :=
  .seq (.opt (.seq (.group count digits) gap)) (unitWord unit)

/-- The unit that a word names, with its plural ending or without. -/
def unitOf (word : List Char) : TimeUnit :=
  Term.parse (.ofList (if word.getLast? = some 's' then word else word ++ ['s']))

/-- The window that two groups of a match give; without a number it is one unit long. -/
def Match.window (m : Match) (count unit : Nat) : Window :=
  ⟨unitOf ((m.group? unit).getD []), (m.int64? count).getD 1⟩

/-! ## Purchases -/

/-- The event that sentences speak of. -/
def purchaseEvent : String := "purchase"

/-- How often something was bought within a window. -/
def frequencyCue : Pattern :=
  seqs [.boundary, .group 1 digits, gap, .alt (plural "time") (lit "x"), blanks,
    .opt (lit "with"), lit "in", blanks, .opt (.seq (lit "the") blanks),
    .opt (.seq (anyOf ["last", "past"]) blanks), unitCount 2 3, .boundary]

/-- The qualifier of a count: "at most" comes before "exactly", and otherwise at least so many are
meant. -/
def qualifierOf (cs : List Char) : Qualifier :=
  if Mapping.isWithin "at most".toList cs then .atMost
  else if Mapping.isWithin "exactly".toList cs then .exactly
  else .atLeast

/-- How often something was bought, if a text says so. -/
def frequency? (cs : List Char) : Option Entity := do
  let m ← frequencyCue.search? cs
  let count ← m.int64? 1
  return .event purchaseEvent (.performed (qualifierOf cs) count (m.window 2 3))

/-- What was spent. -/
def amountCue : Pattern :=
  seqs [.boundary, anyOf ["spent", "paid", "spending"], blanks,
    .opt (.seq (.group 1 (anyOf ["more than", "over", "above", "at least", "less than", "under",
      "below", "at most", "exactly"])) blanks),
    .opt (lit "$"),
    .group 2 (seqs [.char Text.isDigit, .run (fun c => Text.isDigit c || c == ',') 0 none,
      .opt (.seq (lit ".") digits)]),
    gap, .opt (.group 3 (anyOf ["k", "m", "thousand", "million"])), .boundary]

/-- The window that something was spent in. -/
def windowCue : Pattern :=
  seqs [.boundary, .opt (lit "with"), lit "in", blanks, .opt (.seq (lit "the") blanks),
    anyOf ["last", "past"], blanks, unitCount 1 2, .boundary]

/-- The operator that the words before an amount stand for. -/
def amountOperator (words : Option String) : String :=
  match words with
  | some "more than" => "greater_than"
  | some "over" => "greater_than"
  | some "above" => "greater_than"
  | some "less than" => "less_than"
  | some "under" => "less_than"
  | some "below" => "less_than"
  | some "at most" => "less_than_or_equal"
  | some "exactly" => "equals"
  | _ => "greater_than_or_equal"

/-- What the word after an amount multiplies it by. -/
def multiplier (word : Option String) : Float :=
  match word with
  | some "k" => 1000.0
  | some "thousand" => 1000.0
  | some "m" => 1000000.0
  | some "million" => 1000000.0
  | _ => 1.0

/-- An amount as a value: an integer if it is a whole number that is not too large. -/
def amountValue (x : Float) : Scalar :=
  if Number.isWhole x && x.abs < 9.0e15 then .int (Number.toInt64 x) else .float x

/-- What was spent, if a text says so. A window counts only when it comes after the amount. -/
def amount? (cs : List Char) : Option Entity := do
  let m ← amountCue.search? cs
  let digits := ((m.group? 2).getD []).filter (· != ',')
  let base ← Number.readFloat? digits
  let value := amountValue (base * multiplier ((m.group? 3).map .ofList))
  let window := (windowCue.search? m.rest).map (·.window 1 2)
  return .event purchaseEvent (.amount (amountOperator ((m.group? 1).map .ofList)) value window)

/-! ## Products -/

/-- The words for categories of products, by category. -/
def productWords : List (List String × String) := [
  (["electronics", "electronic", "gadgets"], "electronics"),
  (["fashion", "clothing", "clothes", "apparel"], "fashion"),
  (["groceries", "grocery", "food"], "groceries"),
  (["beauty", "cosmetics", "skincare"], "beauty"),
  (["home appliances", "appliances"], "home appliances"),
  (["sportswear", "sports", "sport"], "sports"),
  (["books", "book"], "books"),
  (["toys", "toy"], "toys")]

/-- A word for a category of products. -/
def productCue : Pattern :=
  seqs [.boundary, anyOf (productWords.flatMap Prod.fst), .boundary]

/-- The category of products that a text mentions. -/
def product? (cs : List Char) : Option Entity := do
  let m ← productCue.search? cs
  let (_, category) ← productWords.find? fun row => row.1.contains (.ofList m.text)
  return equals .productLines "category" category.toList

/-! ## Sentences -/

/-- What a text mentions that is in lower case and has its synonyms replaced. -/
def mentioned (cs : List Char) : List Entity :=
  [gender? cs, place? cs, ageRange? cs, frequency? cs, amount? cs, product? cs].reduceOption

/-- What a sentence mentions. -/
def entities (text : String) : List Entity :=
  mentioned (replaceSynonyms (Text.lower text.toList))

end Audience.Sentence
