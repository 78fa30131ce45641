import Descent.CharSet

/-!
Properties of digits, controls and code points, as Unicode 16 has them.
-/

namespace Descent.CharSet.Property

def asciiHexDigit : CharSet := ofRuns [
  (0x30, 0x39), (0x41, 0x46), (0x61, 0x66)] []

def hexDigit : CharSet := ofRuns [
  (0x30, 0x39), (0x41, 0x46), (0x61, 0x66), (0xff10, 0xff19), (0xff21, 0xff26), (0xff41, 0xff46)] []

/-- Controls of the writing direction. -/
def bidiControl : CharSet := ofRuns [
  (0x61c, 0x61c), (0x200e, 0x200f), (0x202a, 0x202e), (0x2066, 0x2069)] []

/-- Code points that are not shown by default. -/
def defaultIgnorable : CharSet := ofRuns [
  (0xad, 0xad), (0x34f, 0x34f), (0x61c, 0x61c), (0x115f, 0x1160), (0x17b4, 0x17b5),
  (0x180b, 0x180f), (0x200b, 0x200f), (0x202a, 0x202e), (0x2060, 0x206f), (0x3164, 0x3164),
  (0xfe00, 0xfe0f), (0xfeff, 0xfeff), (0xffa0, 0xffa0), (0xfff0, 0xfff8), (0x1bca0, 0x1bca3),
  (0x1d173, 0x1d17a), (0xe0000, 0xe0fff)] []

/-- Code points that are not shown by default, apart from format characters and selectors. -/
def otherDefaultIgnorable : CharSet := ofRuns [
  (0x34f, 0x34f), (0x115f, 0x1160), (0x17b4, 0x17b5), (0x2065, 0x2065), (0x3164, 0x3164),
  (0xffa0, 0xffa0), (0xfff0, 0xfff8), (0xe0000, 0xe0000), (0xe0002, 0xe001f), (0xe0080, 0xe00ff),
  (0xe01f0, 0xe0fff)] []

/-- Characters that are no longer in use. -/
def deprecated : CharSet := ofRuns [
  (0x149, 0x149), (0x673, 0x673), (0xf77, 0xf77), (0xf79, 0xf79), (0x17a3, 0x17a4),
  (0x206a, 0x206f), (0x2329, 0x232a), (0xe0001, 0xe0001)] []

def joinControl : CharSet := ofRuns [
  (0x200c, 0x200d)] []

/-- Vowels written before the consonant they follow. -/
def logicalOrderException : CharSet := ofRuns [
  (0xe40, 0xe44), (0xec0, 0xec4), (0x19b5, 0x19b7), (0x19ba, 0x19ba), (0xaab5, 0xaab6),
  (0xaab9, 0xaab9), (0xaabb, 0xaabc)] []

/-- Code points that will never be characters. -/
def noncharacter : CharSet := ofRuns [
  (0xfdd0, 0xfdef), (0xfffe, 0xffff), (0x1fffe, 0x1ffff), (0x2fffe, 0x2ffff), (0x3fffe, 0x3ffff),
  (0x4fffe, 0x4ffff), (0x5fffe, 0x5ffff), (0x6fffe, 0x6ffff), (0x7fffe, 0x7ffff),
  (0x8fffe, 0x8ffff), (0x9fffe, 0x9ffff), (0xafffe, 0xaffff), (0xbfffe, 0xbffff),
  (0xcfffe, 0xcffff), (0xdfffe, 0xdffff), (0xefffe, 0xeffff), (0xffffe, 0xfffff),
  (0x10fffe, 0x10ffff)] []

/-- Marks in front of the digits they enclose. -/
def prependedConcatenationMark : CharSet := ofRuns [
  (0x600, 0x605), (0x6dd, 0x6dd), (0x70f, 0x70f), (0x890, 0x891), (0x8e2, 0x8e2),
  (0x110bd, 0x110bd), (0x110cd, 0x110cd)] []

def variationSelector : CharSet := ofRuns [
  (0x180b, 0x180d), (0x180f, 0x180f), (0xfe00, 0xfe0f), (0xe0100, 0xe01ef)] []

end Descent.CharSet.Property
