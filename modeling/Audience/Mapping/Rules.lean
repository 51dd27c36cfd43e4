import Audience.Catalog
import Audience.Text.Title

set_option autoImplicit false

/-! # Rules for standard values

Where no mapping is stored, rules know the usual spellings. Rules of a category are tried in order:
the rule for women comes before the one for men, whose words are part of hers. Cities that no rule
knows are written with capitals; other values stay as they are. -/

namespace Audience.Mapping

/-- Spellings and the standard value they stand for. A spelling is the whole search key, or just some
part of it. -/
inductive Rule where
  | holding (spellings : List String) (standard : String)
  | equal (spellings : List String) (standard : String)
  deriving DecidableEq

/-- Whether a text holds another somewhere. -/
def isWithin (part : List Char) : List Char → Bool
  | [] => part.isEmpty
  | c :: rest => part.isPrefixOf (c :: rest) || isWithin part rest

namespace Rule

/-- The standard value of a rule. -/
def standard : Rule → String
  | .holding _ standard => standard
  | .equal _ standard => standard

/-- Whether a rule knows a search key. -/
def covers (key : String) : Rule → Bool
  | .holding spellings _ => spellings.any fun s => isWithin s.toList key.toList
  | .equal spellings _ => spellings.contains key

end Rule

/-- The rules of a category, and whether a value they do not know is written with capitals. -/
structure RuleSet where
  rules : List Rule
  titled : Bool

/-- The rules of a category, if it has any. -/
def rulesOf : Category → Option RuleSet
  | .gender => some {
      rules := [
        .holding ["female", "woman", "women", "girl", "lady", "nu"] "F",
        .equal ["f"] "F",
        .holding ["male", "man", "men", "boy", "nam"] "M",
        .equal ["m"] "M"]
      titled := false }
  | .paymentMethod => some {
      rules := [
        .holding ["cash", "tien mat"] "Cash",
        .holding ["e-wallet", "ewallet", "wallet", "momo", "zalopay", "vi dien tu"] "E-Wallet",
        .holding ["credit", "debit", "card", "the tin dung"] "Card",
        .holding ["transfer", "chuyen khoan"] "Bank Transfer"]
      titled := false }
  | .storeType => some {
      rules := [
        .holding ["supermarket", "sieu thi"] "Supermarket",
        .holding ["convenience", "tien loi"] "Convenience Store",
        .holding ["mall", "trung tam thuong mai"] "Shopping Mall",
        .holding ["online", "truc tuyen"] "Online"]
      titled := false }
  | .city => some {
      rules := [
        .equal ["hcm", "tphcm", "saigon", "sai gon", "ho chi minh", "ho chi minh city"]
          "Ho Chi Minh City",
        .equal ["hn", "hanoi", "ha noi"] "Ha Noi"]
      titled := true }
  | .productCategory => none

/-- The rules of the category of a given name. -/
def ruleSet? (category : String) : Option RuleSet :=
  ([Category.gender, .paymentMethod, .storeType, .city, .productCategory].find?
    (·.name == category)).bind rulesOf

namespace RuleSet

/-- Whether a value is the standard value of some rule, letter for letter. -/
def isStandard (set : RuleSet) (value : String) : Bool :=
  set.rules.any (·.standard == value)

/-- The value that the rules give for a search key. -/
def apply (set : RuleSet) (key : String) : Option String :=
  match set.rules.find? (·.covers key) with
  | some rule => some rule.standard
  | none => if set.titled then some (Text.title key) else none

end RuleSet

end Audience.Mapping
