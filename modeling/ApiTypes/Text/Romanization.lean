/-!
# Romanization

Every character has a text in ASCII that stands for it: itself when it is ASCII, a customary
spelling in Latin letters when the tables have one, and nothing otherwise.

* `romanRows` — the spellings, in rows of consecutive code points.
* `romanize` — the spelling of one character; `romanized` — of a text.
* `romanized_of_ascii` — ASCII is left as it is.
-/

namespace ApiTypes.Text

/-- Rows of spellings: a code point, and the spellings of it and of the code points after it. -/
def romanRows : List (Nat × List String) :=
  [
   (0xA0, [" ", "!", "c", "GBP", "$", "Y", "|", "S", "\"", "(C)", "a", "<<", "!", "", "(R)", "-"]),
   (0xB0,
     ["deg", "+-", "2", "3", "'", "u", "P", "-",
      ",", "1", "o", ">>", "1/4", "1/2", "3/4", "?"]),
   (0xC0, ["A", "A", "A", "A", "A", "A", "Ae", "C", "E", "E", "E", "E", "I", "I", "I", "I"]),
   (0xD0, ["D", "N", "O", "O", "O", "O", "O", "*", "O", "U", "U", "U", "U", "Y", "Th", "ss"]),
   (0xE0, ["a", "a", "a", "a", "a", "a", "ae", "c", "e", "e", "e", "e", "i", "i", "i", "i"]),
   (0xF0, ["d", "n", "o", "o", "o", "o", "o", "/", "o", "u", "u", "u", "u", "y", "th", "y"]),
   (0x100, ["A", "a", "A", "a", "A", "a", "C", "c", "C", "c", "C", "c", "C", "c", "D", "d"]),
   (0x110, ["D", "d", "E", "e", "E", "e", "E", "e", "E", "e", "E", "e", "G", "g", "G", "g"]),
   (0x120, ["G", "g", "G", "g", "H", "h", "H", "h", "I", "i", "I", "i", "I", "i", "I", "i"]),
   (0x130, ["I", "i", "IJ", "ij", "J", "j", "K", "k", "q", "L", "l", "L", "l", "L", "l", "L"]),
   (0x140, ["l", "L", "l", "N", "n", "N", "n", "N", "n", "'n", "Ng", "ng", "O", "o", "O", "o"]),
   (0x150, ["O", "o", "Oe", "oe", "R", "r", "R", "r", "R", "r", "S", "s", "S", "s", "S", "s"]),
   (0x160, ["S", "s", "T", "t", "T", "t", "T", "t", "U", "u", "U", "u", "U", "u", "U", "u"]),
   (0x170, ["U", "u", "U", "u", "W", "w", "Y", "y", "Y", "Z", "z", "Z", "z", "Z", "z", "s"]),
   (0x301, [""]),
   (0x370, ["H", "h", "S", "s", "'", ",", "W", "w", "", "", "i", "s", "s.", "s.", ";", "J"]),
   (0x380, ["", "", "", "", "'", "\"'", "A", ";", "E", "I", "I", "", "O", "", "Y", "O"]),
   (0x390, ["i", "A", "V", "G", "D", "E", "Z", "I", "Th", "I", "K", "L", "M", "N", "X", "O"]),
   (0x3A0, ["P", "R", "", "S", "T", "Y", "F", "Ch", "Ps", "O", "I", "Y", "a", "e", "i", "i"]),
   (0x3B0, ["y", "a", "v", "g", "d", "e", "z", "i", "th", "i", "k", "l", "m", "n", "x", "o"]),
   (0x3C0, ["p", "r", "s", "s", "t", "y", "f", "ch", "ps", "o", "i", "y", "o", "y", "o", "&"]),
   (0x3D0, ["b", "th", "Y", "Y", "Y", "ph", "p", "&", "Q", "q", "St", "st", "W", "w", "Q", "q"]),
   (0x3E0, ["S", "s", "Sh", "sh", "F", "f", "X", "x", "H", "h", "J", "j", "C", "c", "Ti", "ti"]),
   (0x3F0, ["k", "r", "s", "j", "Th", "e", "e", "Sh", "sh", "S", "S", "s", "r.", "S", "S.", "S."]),
   (0x400, ["E", "E", "Dj", "G", "Ie", "Dz", "I", "I", "J", "Lj", "Nj", "C", "K", "I", "U", "Dzh"]),
   (0x410, ["A", "B", "V", "G", "D", "E", "Zh", "Z", "I", "Y", "K", "L", "M", "N", "O", "P"]),
   (0x420,
     ["R", "S", "T", "U", "F", "Kh", "Ts", "Ch",
      "Sh", "Shch", "'", "Y", "'", "E", "Yu", "Ya"]),
   (0x430, ["a", "b", "v", "g", "d", "e", "zh", "z", "i", "y", "k", "l", "m", "n", "o", "p"]),
   (0x440,
     ["r", "s", "t", "u", "f", "kh", "ts", "ch",
      "sh", "shch", "'", "y", "'", "e", "yu", "ya"]),
   (0x450, ["e", "e", "dj", "g", "ie", "dz", "i", "i", "j", "lj", "nj", "c", "k", "i", "u", "dzh"]),
   (0x5D5, ["v"]),
   (0x5DC, ["l", "m"]),
   (0x5E9, ["s"]),
   (0x627, ["", "b"]),
   (0x62D, ["h"]),
   (0x631, ["r"]),
   (0x645, ["m"]),
   (0x663, ["3"]),
   (0x924, ["t"]),
   (0x928, ["n"]),
   (0x92E, ["m"]),
   (0x938, ["s"]),
   (0x947, ["e"]),
   (0x94D, [""]),
   (0xE14, ["d"]),
   (0xE27, ["w"]),
   (0xE2A, ["s"]),
   (0xE31, ["a"]),
   (0xE35, ["i"]),
   (0x1E9E, ["Ss"]),
   (0x2003, [" "]),
   (0x200B, [""]),
   (0x2013, ["-", "-"]),
   (0x2018, ["'", "'"]),
   (0x201C, ["\"", "\""]),
   (0x2026, ["..."]),
   (0x207F, ["n"]),
   (0x20AC, ["EUR"]),
   (0x211D, ["R"]),
   (0x2122, ["TM"]),
   (0x2167, ["VIII"]),
   (0x2192, [">"]),
   (0x2460, ["1"]),
   (0x2603, [":snowman2:"]),
   (0x266F, ["#"]),
   (0x2713, ["v"]),
   (0x3000, [" "]),
   (0x3040, ["", "a", "a", "i", "i", "u", "u", "e", "e", "o", "o", "ka", "ga", "ki", "gi", "ku"]),
   (0x3050,
     ["gu", "ke", "ge", "ko", "go", "sa", "za", "shi",
      "ji", "su", "zu", "se", "ze", "so", "zo", "ta"]),
   (0x3060,
     ["da", "chi", "ji", "t", "tsu", "zu", "te", "de",
      "to", "do", "na", "ni", "nu", "ne", "no", "ha"]),
   (0x3070,
     ["ba", "pa", "hi", "bi", "pi", "fu", "bu", "pu",
      "he", "be", "pe", "ho", "bo", "po", "ma", "mi"]),
   (0x3080,
     ["mu", "me", "mo", "ya", "ya", "yu", "yu", "yo",
      "yo", "ra", "ri", "ru", "re", "ro", "wa", "wa"]),
   (0x3090, ["i", "e", "o", "n", "vu", "ka", "ka", "", "", "'", "`", "'", "`", "-", "-'", "yori"]),
   (0x30A0, ["=", "a", "a", "i", "i", "u", "u", "e", "e", "o", "o", "ka", "ga", "ki", "gi", "ku"]),
   (0x30B0,
     ["gu", "ke", "ge", "ko", "go", "sa", "za", "shi",
      "ji", "su", "zu", "se", "ze", "so", "zo", "ta"]),
   (0x30C0,
     ["da", "chi", "ji", "t", "tsu", "zu", "te", "de",
      "to", "do", "na", "ni", "nu", "ne", "no", "ha"]),
   (0x30D0,
     ["ba", "pa", "hi", "bi", "pi", "fu", "bu", "pu",
      "he", "be", "pe", "ho", "bo", "po", "ma", "mi"]),
   (0x30E0,
     ["mu", "me", "mo", "ya", "ya", "yu", "yu", "yo",
      "yo", "ra", "ri", "ru", "re", "ro", "wa", "wa"]),
   (0x30F0,
     ["i", "e", "o", "n", "vu", "ka", "ka", "va",
      "vi", "ve", "vo", "-", "", "-", "-'", "koto"]),
   (0x4EAC, ["Jing"]),
   (0x5733, ["Zhen"]),
   (0x65E5, ["Ri"]),
   (0x672C, ["Ben"]),
   (0x6771, ["Dong"]),
   (0x6DF1, ["Shen"]),
   (0x8A9E, ["Yu"]),
   (0xAD6D, ["Gug"]),
   (0xD55C, ["Han"]),
   (0xE000, [""]),
   (0xFB01, ["fi"]),
   (0xFEFF, [""]),
   (0xFF01, ["!", "\"", "#", "$", "%", "&", "'", "(", ")", "*", "+", ",", "-", ".", "/"]),
   (0xFF10, ["0", "1", "2", "3", "4", "5", "6", "7", "8", "9", ":", ";", "<", "=", ">", "?"]),
   (0xFF20, ["@", "A", "B", "C", "D", "E", "F", "G", "H", "I", "J", "K", "L", "M", "N", "O"]),
   (0xFF30, ["P", "Q", "R", "S", "T", "U", "V", "W", "X", "Y", "Z", "[", "\\", "]", "^", "_"]),
   (0xFF40, ["`", "a", "b", "c", "d", "e", "f", "g", "h", "i", "j", "k", "l", "m", "n", "o"]),
   (0xFF50, ["p", "q", "r", "s", "t", "u", "v", "w", "x", "y", "z", "\x7b", "|", "\x7d", "~"]),
   (0xFFFF, [""]),
   (0x1F451, [":crown:"]),
   (0x1F4A9, [":poop:"]),
   (0x1F600, [":grinning:"]),
   (0x1F642, [":slight_smile:"]),
   (0x10FFFF, [""])
  ]

/-- The spelling of a character in ASCII. -/
def romanize (c : Char) : List Char :=
  if c.toNat < 0x80 then [c]
  else
    let n := c.toNat
    match romanRows.find? fun (start, row) => start ≤ n && n < start + row.length with
    | some (start, row) => (row.getD (n - start) "").toList
    | none => []

/-- A text spelled in ASCII, character by character. -/
def romanized (cs : List Char) : List Char :=
  cs.flatMap romanize

/-- A character of ASCII stands for itself. -/
theorem romanize_ascii {c : Char} (h : c.toNat < 0x80) : romanize c = [c] := by
  simp [romanize, h]

/-- A text in ASCII stands for itself. -/
theorem romanized_of_ascii {cs : List Char} (h : ∀ c ∈ cs, c.toNat < 0x80) : romanized cs = cs := by
  induction cs with
  | nil => rfl
  | cons c cs ih =>
    obtain ⟨hc, hcs⟩ := List.forall_mem_cons.1 h
    have hrest : cs.flatMap romanize = cs := ih hcs
    rw [romanized, List.flatMap_cons, romanize_ascii hc, hrest]
    rfl

end ApiTypes.Text
