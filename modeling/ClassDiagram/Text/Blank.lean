/-!
# White space around and between words

White space is the Unicode property together with the four information
separators; the zero-width space and the byte order mark are not white space.
-/

namespace ClassDiagram.Text

def isBlank (c : Char) : Bool :=
  let code := c.toNat
  (9 ≤ code && code ≤ 13) || (28 ≤ code && code ≤ 32) || code == 0x85 || code == 0xA0 ||
    code == 0x1680 || (0x2000 ≤ code && code ≤ 0x200A) || code == 0x2028 || code == 0x2029 ||
    code == 0x202F || code == 0x205F || code == 0x3000

def stripLeft (chars : List Char) : List Char := chars.dropWhile isBlank

def stripChars (chars : List Char) : List Char :=
  (stripLeft (stripLeft chars).reverse).reverse

def strip (text : String) : String := String.ofList (stripChars text.toList)

/-- Close a word whose last character comes first: only a non-empty run of characters is one. -/
def endWord (word : List Char) (words : List String) : List String :=
  if word.isEmpty then words else String.ofList word.reverse :: words

/-- Split characters into words, where `word` holds the word under way, last character first. -/
def wordsFrom (word : List Char) : List Char → List String
  | [] => endWord word []
  | c :: rest =>
      if isBlank c then endWord word (wordsFrom [] rest) else wordsFrom (c :: word) rest

/-- The words of a text: its maximal runs of characters that are not white space. -/
def words (text : String) : List String := wordsFrom [] text.toList

@[simp] theorem stripChars_nil : stripChars [] = [] := rfl

@[simp] theorem strip_empty : strip "" = "" := rfl

@[simp] theorem endWord_nil (words : List String) : endWord [] words = words := rfl

@[simp] theorem words_empty : words "" = [] := rfl

theorem wordsFrom_blank (word rest : List Char) {c : Char} (blank : isBlank c = true) :
    wordsFrom word (c :: rest) = endWord word (wordsFrom [] rest) := by
  simp [wordsFrom, blank]

theorem wordsFrom_solid (word rest : List Char) {c : Char} (solid : isBlank c = false) :
    wordsFrom word (c :: rest) = wordsFrom (c :: word) rest := by
  simp [wordsFrom, solid]

end ClassDiagram.Text
