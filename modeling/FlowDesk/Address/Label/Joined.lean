/-
# Letters with marks

Letters and marks that have a joint form. A label holds the joint form, so it
does not hold these letters with the mark after them.
-/

import FlowDesk.Address.Label.Table

namespace FlowDesk.Address.Label

/-- Marks, each with the letters that it forms one letter with. -/
def joined : List (Nat × String) :=
  [ (0x300, "aeiouünеиēōwâăêôơưyἀἁἐἑἠἡἰἱὀὁὐὑὠὡαεηιουωϊϋ"),
    (0x301, "aeiouyclnrszügåæøϊαεηιϋουωгкçēïkmõōpũwâăêôơưἀἁἐἑἠἡἰἱὀὁὐὑὠὡ"),
    (0x302, "aeioucghjswyzạẹọ"),
    (0x303, "anoiuvâăeêôơưy"),
    (0x304, "aeiouüäȧæǫöõȯyиуgḷṛαιυ"),
    (0x306, "aegiouиужаеȩạαιυ"),
    (0x307, "cegzaobdfhmnprsśšṣtwxy"),
    (0x308, "aeiouyιυеіаәжзиоөэучыhõūwxt"),
    (0x309, "aâăeêioôơuưy"),
    (0x30A, "auwy"),
    (0x30B, "ouу"),
    (0x30C, "cdelnrstzaiouügkʒjh"),
    (0x30F, "aeioruѵ"),
    (0x311, "aeioru"),
    (0x313, "αεηιουωρ"),
    (0x314, "αεηιουωρ"),
    (0x31B, "ou"),
    (0x323, "bdhklmnrstvwzaeioơuưy"),
    (0x324, "u"),
    (0x325, "a"),
    (0x326, "st"),
    (0x327, "cgklnrstedh"),
    (0x328, "aeiuo"),
    (0x32D, "delntu"),
    (0x32E, "h"),
    (0x330, "eiu"),
    (0x331, "bdklnrtzh"),
    (0x342, "ἀἁἠἡἰἱὐὑὠὡαηιϊυϋω"),
    (0x653, "ا"),
    (0x654, "اويەہے"),
    (0x655, "ا"),
    (0x93C, "नरळ"),
    (0x102E, "ဥ"),
    (0x3099, "かきくけこさしすせそたちつてとはひふへほうゝカキクケコサシスセソタチツテトハヒフヘホウワヰヱヲヽ"),
    (0x309A, "はひふへほハヒフヘホ") ]

/-- Whether a letter and a mark have a joint form. -/
def haveJointForm (letter mark : Char) : Bool :=
  joined.any fun entry => entry.1 == mark.toNat && entry.2.toList.contains letter

/-- Whether no letter stands before a mark with which it has a joint form. -/
def isComposed : List Char → Bool
  | a :: b :: rest => !haveJointForm a b && isComposed (b :: rest)
  | _ => true

end FlowDesk.Address.Label
