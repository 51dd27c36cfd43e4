import Audience.Sentence.Pattern

set_option autoImplicit false

/-! # Synonyms

Sentences may be in English or Vietnamese. Before they are read, cue words and variants are replaced
by the few English words that patterns know. Only whole words are replaced, and a longer phrase comes
before the words in it. The word "nam" is not among them: it is also part of place names. -/

namespace Audience.Sentence

/-- Phrases and what they are replaced by. -/
def synonyms : List (String × String) := [
  ("khách hàng", "customers"),
  ("phụ nữ", "female"),
  ("đàn ông", "male"),
  ("nam giới", "male"),
  ("nữ", "female"),
  ("women", "female"),
  ("woman", "female"),
  ("ladies", "female"),
  ("lady", "female"),
  ("girls", "female"),
  ("men", "male"),
  ("man", "male"),
  ("gentlemen", "male"),
  ("boys", "male"),
  ("sống ở", "living in"),
  ("sống tại", "living in"),
  ("ở", "in"),
  ("tại", "in"),
  ("mua hàng", "purchased"),
  ("mua", "purchased"),
  ("bought", "purchased"),
  ("buy", "purchased"),
  ("purchase", "purchased"),
  ("ordered", "purchased"),
  ("shopped", "purchased"),
  ("once", "1 time"),
  ("twice", "2 times"),
  ("lần", "times"),
  ("trong vòng", "within"),
  ("trong", "in"),
  ("gần đây", "last"),
  ("qua", "last"),
  ("ngày", "days"),
  ("tuần", "weeks"),
  ("tháng", "months"),
  ("ít nhất", "at least"),
  ("tối thiểu", "at least"),
  ("nhiều nhất", "at most"),
  ("tối đa", "at most"),
  ("đúng", "exactly"),
  ("từ", "from"),
  ("đến", "to"),
  ("tới", "to"),
  ("tuổi", "years old"),
  ("chi tiêu", "spent"),
  ("tiêu", "spent"),
  ("spend", "spent"),
  ("trên", "over"),
  ("dưới", "under"),
  ("điện tử", "electronics"),
  ("thời trang", "fashion"),
  ("mỹ phẩm", "beauty"),
  ("thực phẩm", "groceries"),
  ("đồ gia dụng", "home appliances"),
  ("thể thao", "sports"),
  ("sách", "books"),
  ("đồ chơi", "toys")]

/-- The phrases with the longest first, as characters. -/
def phrases : List (List Char × List Char) :=
  (synonyms.map fun (a, b) => (a.toList, b.toList)).mergeSort fun a b => b.1.length ≤ a.1.length

/-- The phrase that stands at a place as a whole word, and its replacement. -/
def phraseAt? (before : Option Char) (cs : List Char) : Option (List Char × List Char) :=
  if isBoundary before cs.head? then
    phrases.find? fun (phrase, _) =>
      phrase.isPrefixOf cs && isBoundary phrase.getLast? (cs.drop phrase.length).head?
  else none

/-- Replace phrases in what is left of a text; `skip` characters belong to a phrase already. -/
def replaceFrom (skip : Nat) (before : Option Char) : List Char → List Char
  | [] => []
  | c :: rest =>
    match skip with
    | skip + 1 => replaceFrom skip (some c) rest
    | 0 =>
      match phraseAt? before (c :: rest) with
      | some (phrase, replacement) =>
        replacement ++ replaceFrom (phrase.length - 1) (some c) rest
      | none => c :: replaceFrom 0 (some c) rest

/-- A text with all synonyms replaced. -/
def replaceSynonyms (cs : List Char) : List Char :=
  replaceFrom 0 none cs

end Audience.Sentence
