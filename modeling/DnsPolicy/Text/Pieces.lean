import DnsPolicy.Unicode.Blank

/-! Cutting texts into pieces: trimming, words, lines, and cuts at a mark. -/
namespace DnsPolicy.Text
open DnsPolicy.Unicode

def trimStart (text : List Char) : List Char := text.dropWhile isBlank

def trimEndWhile (p : Char → Bool) (text : List Char) : List Char :=
  (text.reverse.dropWhile p).reverse

def trim (text : List Char) : List Char := trimEndWhile isBlank (trimStart text)

def trimDots (text : List Char) : List Char := trimEndWhile (· == '.') text

def words (text : List Char) : List (List Char) :=
  (text.splitOnP isBlank).filter (fun word => !word.isEmpty)

def cut? (mark : Char) : List Char → Option (List Char × List Char)
  | [] => none
  | c :: rest =>
    if c = mark then some ([],rest)
    else (cut? mark rest).map fun (front,back) => (c :: front,back)

def upTo (mark : Char) (text : List Char) : List Char := text.takeWhile (· != mark)

def after? : List Char → List Char → Option (List Char)
  | [], text => some text
  | _ :: _, [] => none
  | a :: start, c :: text => if a = c then after? start text else none

def mentions (part : List Char) : List Char → Bool
  | [] => part.isEmpty
  | c :: rest => part.isPrefixOf (c :: rest) || mentions part rest

/-- Lines end at a line feed, which is dropped with one carriage return in front of it. What follows
the last line feed is a line only when it is not empty. -/
def lines : List Char → List (List Char)
  | [] => []
  | '\n' :: rest => [] :: lines rest
  | '\r' :: '\n' :: rest => [] :: lines rest
  | c :: rest =>
    match lines rest with
    | [] => [[c]]
    | line :: more => (c :: line) :: more

end DnsPolicy.Text
