import FieldRules.Unicode.Property

/-!
# Additions to the standard

The properties in the library are those of version 16 of the Unicode standard, which patterns speak
of. Names and quoted texts follow version 17: here are the characters that it added, and the classes
that names and quoted texts need of both together.
-/

namespace FieldRules.Unicode

def added : CharSet :=
  .ofText
    "88F C5C CDC 1ACF-1ADD 1AE0-1AEB 20C1 2B96 A7CE-A7CF A7D2 A7D4 A7F1 FBC3-FBD2 FD90-FD91
     FDC8-FDCE 10940-10959 10EC5-10EC7 10ED0-10ED8 10EFA-10EFB 11B60-11B67 11DB0-11DDB
     11DE0-11DE9 16EA0-16EB8 16EBB-16ED3 16FF2-16FF6 187F8-187FF 18D09-18D1E 18D80-18DF2
     1CCFA-1CCFC 1CEBA-1CED0 1CEE0-1CEF0 1E6C0-1E6DE 1E6E0-1E6F5 1E6FE-1E6FF 1F6D8 1F777-1F77A
     1F8D0-1F8D8 1FA54-1FA57 1FA8A 1FA8E 1FAC8 1FACD 1FAEA 1FAEF 1FBFA 2B73A-2B73F 2CEA2-2CEAD
     323B0-33479"

def addedLetters : CharSet :=
  .ofText
    "88F C5C CDC A7CE-A7CF A7D2 A7D4 A7F1 10940-10959 10EC5-10EC7 10EFA-10EFB 11B60-11B67
     11DB0-11DDB 16EA0-16EB8 16EBB-16ED3 16FF2-16FF6 187F8-187FF 18D09-18D1E 18D80-18DF2
     1E6C0-1E6DE 1E6E0-1E6F5 1E6FE-1E6FF 2B73A-2B73F 2CEA2-2CEAD 323B0-33479"

def addedNumbers : CharSet := .ofText "11DE0-11DE9 16FF4-16FF6"

def addedExtenders : CharSet :=
  .ofText "1ACF-1ADD 1AE0-1AEB 10EFA-10EFB 11B60 11B62-11B64 11B66 1E6E3 1E6E6 1E6EE-1E6EF
           1E6F5"

def nameLetters : CharSet := alphabetic.union addedLetters

def nameCharacters : CharSet :=
  .unionAll [nameLetters, inAny [.Nd, .Nl, .No], addedNumbers]

/-- Halfwidth voiced sound marks extend the character before, but are shown well by themselves. -/
def voicedSoundMarks : CharSet := .range 0xFF9E 0xFF9F

def joining : CharSet := (graphemeExtend.union addedExtenders).diff voicedSoundMarks

/-- Controls, characters that are unassigned or private, separators other than the blank, and
characters that are usually not drawn. -/
def invisible : CharSet :=
  .unionAll [unassigned.diff added, defaultIgnorable,
    (inAny [.Cc, .Cf, .Co, .Zl, .Zp, .Zs]).diff (.single ' ')]

end FieldRules.Unicode
