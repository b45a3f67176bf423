import MenuLine.Unicode.DerivedProperty

/-!
# Grapheme clusters

What a reader takes for one character may be several: a letter with its marks,
a syllable, a flag, a joined emoji. `clusters` cuts a text between them.
-/

namespace MenuLine

namespace Unicode

namespace GraphemeBreak

def control : CharSet :=
  .ofTable ["0-9 B-C E-1F 7F-9F AD 61C 180E 200B 200E-200F 2028-202E 2060-206F FEFF FFF0-FFFB",
     "13430-1343F 1BCA0-1BCA3 1D173-1D17A E0000-E001F E0080-E00FF E01F0-E0FFF"]

def extend : CharSet := graphemeExtend.union (propertyOf "emojimodifier")

def leading : CharSet := .ofTable ["1100-115F A960-A97C"]

def vowel : CharSet := .ofTable ["1160-11A7 D7B0-D7C6 16D63 16D67-16D6A"]

def trailing : CharSet := .ofTable ["11A8-11FF D7CB-D7FB"]

/-- Syllables without a trailing consonant: every 28th of them. -/
def openSyllable : CharSet :=
  ⟨(List.range 399).map fun i => (0xAC00 + 28 * i, 0xAC00 + 28 * i)⟩

def closedSyllable : CharSet :=
  ⟨(List.range 399).map fun i => (0xAC01 + 28 * i, 0xAC1B + 28 * i)⟩

def prepend : CharSet :=
  .ofTable ["600-605 6DD 70F 890-891 8E2 D4E 110BD 110CD 111C2-111C3 113D1 1193F 11941 11A3A",
     "11A84-11A89 11D46 11F02"]

def spacingMark : CharSet :=
  (((unionOf ["mc"]).diff extend).diff
    (.ofTable ["102B-102C 1038 1062-1064 1067-106D 1083 1087-108C 108F 109A-109C 1A61 1A63-1A64",
               "AA7B AA7D 11720-11721"])).union
    (.ofTable ["E33 EB3"])

def regionalIndicator : CharSet := propertyOf "regionalindicator"

/-- The letters that form conjuncts. -/
def consonant : CharSet :=
  .ofTable ["915-939 958-95F 978-97F 995-9A8 9AA-9B0 9B2 9B6-9B9 9DC-9DD 9DF 9F0-9F1 A95-AA8 AAA-AB0",
     "AB2-AB3 AB5-AB9 AF9 B15-B28 B2A-B30 B32-B33 B35-B39 B5C-B5D B5F B71 C15-C28 C2A-C39",
     "C58-C5A D15-D3A"]

/-- The signs that join two consonants. -/
def linker : CharSet := .ofTable ["94D 9CD ACD B4D C4D D4D"]

def pictograph : CharSet := propertyOf "extendedpictographic"

def values : List (List String × CharSet) :=
  [(["cr"], .single '\r'), (["lf"], .single '\n'), (["cn", "control"], control),
    (["ex", "extend"], extend), (["zwj"], ⟨[(0x200D, 0x200D)]⟩), (["l"], leading),
    (["v"], vowel), (["t"], trailing), (["lv"], openSyllable), (["lvt"], closedSyllable),
    (["pp", "prepend"], prepend), (["sm", "spacingmark"], spacingMark),
    (["ri", "regionalindicator"], regionalIndicator)]

def joiner : Char := '\u200d'

/-- Nothing joins a character that controls the text. -/
def isControl (c : Char) : Bool := c == '\r' || c == '\n' || control.contains c

/-- Letters of one syllable. -/
def isSyllable (b c : Char) : Bool :=
  (leading.contains b && (leading.contains c || vowel.contains c || openSyllable.contains c ||
    closedSyllable.contains c)) ||
  ((vowel.contains b || openSyllable.contains b) && (vowel.contains c || trailing.contains c)) ||
  ((trailing.contains b || closedSyllable.contains b) && trailing.contains c)

/-- The signs that may stand between the consonants of a conjunct. -/
def isConjunctSign (c : Char) : Bool :=
  linker.contains c || c == joiner || (extend.contains c && c != '\u200c' && !consonant.contains c)

/-- A consonant that a sign joins to one before it. The text before is given
backward, here and below. -/
def isConjunct (before : Text) (c : Char) : Bool :=
  let signs := before.takeWhile isConjunctSign
  consonant.contains c && signs.any linker.contains &&
    (before.drop signs.length).head?.any consonant.contains

def isJoinedPictograph (before : Text) (c : Char) : Bool :=
  match before with
  | [] => false
  | b :: rest =>
    pictograph.contains c && b == joiner &&
      (rest.dropWhile extend.contains).head?.any pictograph.contains

/-- The second letter of a flag. -/
def isFlagEnd (before : Text) (c : Char) : Bool :=
  regionalIndicator.contains c && (before.takeWhile regionalIndicator.contains).length % 2 == 1

/-- Whether a character belongs to the cluster before it. -/
def joins (before : Text) (c : Char) : Bool :=
  match before with
  | [] => false
  | b :: _ =>
    if isControl b || isControl c then b == '\r' && c == '\n'
    else isSyllable b c || extend.contains c || c == joiner || spacingMark.contains c ||
      prepend.contains b || isConjunct before c || isJoinedPictograph before c ||
      isFlagEnd before c

/-- Puts a character in front of the clusters that follow it. -/
def attach (before : Text) (c : Char) : List Text → List Text
  | (d :: cluster) :: clusters =>
    if joins (c :: before) d then (c :: d :: cluster) :: clusters
    else [c] :: (d :: cluster) :: clusters
  | clusters => [c] :: clusters

def clustersFrom (before : Text) : Text → List Text
  | [] => []
  | c :: rest => attach before c (clustersFrom (c :: before) rest)

theorem flatten_attach (before : Text) (c : Char) (clusters : List Text) :
    (attach before c clusters).flatten = c :: clusters.flatten := by
  unfold attach
  split
  · split <;> rfl
  · rfl

theorem flatten_clustersFrom (before t : Text) : (clustersFrom before t).flatten = t := by
  induction t generalizing before with
  | nil => rfl
  | cons c rest ih => rw [clustersFrom, flatten_attach, ih]

end GraphemeBreak

def graphemeBreak? (name : Text) : Option CharSet := NamedSet.pick? GraphemeBreak.values name

def clusters (t : Text) : List Text := GraphemeBreak.clustersFrom [] t

@[simp] theorem clusters_nil : clusters [] = [] := rfl

/-- Nothing is lost between the clusters. -/
theorem flatten_clusters (t : Text) : (clusters t).flatten = t :=
  GraphemeBreak.flatten_clustersFrom [] t

end Unicode

end MenuLine
