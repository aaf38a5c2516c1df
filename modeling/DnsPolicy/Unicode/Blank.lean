import DnsPolicy.Unicode.Ranges

/-! White space: what is trimmed from rule lines and what separates the words of a hosts line. -/
namespace DnsPolicy.Unicode

/-- Property White_Space. The zero-width space and the byte order mark are not in it. -/
def blankRanges : Ranges :=
  [(0x9,0xd),(0x20,0x20),(0x85,0x85),(0xa0,0xa0),(0x1680,0x1680),(0x2000,0x200a),(0x2028,0x2029),
   (0x202f,0x202f),(0x205f,0x205f),(0x3000,0x3000)]

def isBlank (c : Char) : Bool := blankRanges.contains c

end DnsPolicy.Unicode
