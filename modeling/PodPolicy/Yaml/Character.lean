/-!
# Characters of a stream

Which characters a stream may hold, and the classes by which it is cut into
tokens. The end of the text is no character; it ends a line, a word and a token.
-/

namespace PodPolicy.Yaml

/-- Characters that may stand in a stream: no control characters but tabs and
line breaks, and no noncharacters of the first plane's end. -/
def isPrintable (c : Char) : Bool :=
  let n := c.toNat
  c = '\t' || c = '\n' || c = '\r' || (0x20 ≤ n && n ≤ 0x7e) || n = 0x85 ||
    (0xa0 ≤ n && n ≤ 0xd7ff) || (0xe000 ≤ n && n ≤ 0xfffd) || 0x10000 ≤ n

def byteOrderMark : Char := '\ufeff'

def isBreak (c : Char) : Bool :=
  c = '\n' || c = '\r' || c = '\x85' || c = '\u2028' || c = '\u2029'

def isSpace (c : Char) : Bool :=
  c = ' '

def isGap (c : Char) : Bool :=
  c = ' ' || c = '\t'

def endsLine : Option Char → Bool
  | none => true
  | some c => isBreak c

def endsWord : Option Char → Bool
  | none => true
  | some c => c = ' ' || isBreak c

def endsToken : Option Char → Bool
  | none => true
  | some c => isGap c || isBreak c

def isDecimalDigit (c : Char) : Bool :=
  '0' ≤ c && c ≤ '9'

def isWordChar (c : Char) : Bool :=
  isDecimalDigit c || ('A' ≤ c && c ≤ 'Z') || ('a' ≤ c && c ≤ 'z') || c = '-' || c = '_'

def isFlowMark (c : Char) : Bool :=
  c = ',' || c = '[' || c = ']' || c = '{' || c = '}'

def isIndicator (c : Char) : Bool :=
  isFlowMark c || "-?:#&*!|>'\"%@\x60".toList.contains c

/-- Characters of a tag's name, with `%` for escaped ones. -/
def isUriChar (c : Char) : Bool :=
  isWordChar c || ";/?:@&=+$,.!~*'()[]%".toList.contains c

end PodPolicy.Yaml
