namespace RecordQuery.Text

/-- Latin-1 Supplement through Latin Extended-B, and Latin Extended Additional. -/
def isExtendedLatin (c : Char) : Bool :=
  (0xC0 ≤ c.toNat && c.toNat ≤ 0x24F) || (0x1E00 ≤ c.toNat && c.toNat ≤ 0x1EFF)

def latinSpellings : List (Nat × String) := [
  (0xC6, "ae"), (0xD0, "d"), (0xD7, "x"), (0xD8, "o"), (0xDE, "th"), (0xDF, "ss"), (0xE6, "ae"),
  (0xF0, "d"), (0xF7, "/"), (0xF8, "o"), (0xFE, "th"), (0x110, "d"), (0x111, "d"), (0x126, "h"),
  (0x127, "h"), (0x131, "i"), (0x132, "ij"), (0x133, "ij"), (0x138, "k"), (0x13F, "l"),
  (0x140, "l"), (0x141, "l"), (0x142, "l"), (0x149, "'n"), (0x14A, "ng"), (0x14B, "ng"),
  (0x152, "oe"), (0x153, "oe"), (0x166, "t"), (0x167, "t"), (0x17F, "s"), (0x180, "b"),
  (0x181, "b"), (0x182, "b"), (0x183, "b"), (0x184, "6"), (0x185, "6"), (0x186, "o"),
  (0x187, "c"), (0x188, "c"), (0x189, "d"), (0x18A, "d"), (0x18B, "d"), (0x18C, "d"),
  (0x18D, "d"), (0x18E, "3"), (0x18F, "@"), (0x190, "e"), (0x191, "f"), (0x192, "f"),
  (0x193, "g"), (0x194, "g"), (0x195, "hv"), (0x196, "i"), (0x197, "i"), (0x198, "k"),
  (0x199, "k"), (0x19A, "l"), (0x19B, "l"), (0x19C, "w"), (0x19D, "n"), (0x19E, "n"),
  (0x19F, "o"), (0x1A2, "oi"), (0x1A3, "oi"), (0x1A4, "p"), (0x1A5, "p"), (0x1A6, "yr"),
  (0x1A7, "2"), (0x1A8, "2"), (0x1A9, "sh"), (0x1AA, "sh"), (0x1AB, "t"), (0x1AC, "t"),
  (0x1AD, "t"), (0x1AE, "t"), (0x1B1, "y"), (0x1B2, "v"), (0x1B3, "y"), (0x1B4, "y"),
  (0x1B5, "z"), (0x1B6, "z"), (0x1B7, "zh"), (0x1B8, "zh"), (0x1B9, "zh"), (0x1BA, "zh"),
  (0x1BB, "2"), (0x1BC, "5"), (0x1BD, "5"), (0x1BE, "ts"), (0x1BF, "w"), (0x1C0, "|"),
  (0x1C1, "||"), (0x1C2, "|="), (0x1C3, "!"), (0x1C4, "dz"), (0x1C5, "dz"), (0x1C6, "dz"),
  (0x1C7, "lj"), (0x1C8, "lj"), (0x1C9, "lj"), (0x1CA, "nj"), (0x1CB, "nj"), (0x1CC, "nj"),
  (0x1DD, "@"), (0x1E4, "g"), (0x1E5, "g"), (0x1F1, "dz"), (0x1F2, "dz"), (0x1F3, "dz"),
  (0x1F6, "hv"), (0x1F7, "w"), (0x21C, "y"), (0x21D, "y"), (0x220, "n"), (0x221, "d"),
  (0x222, "ou"), (0x223, "ou"), (0x224, "z"), (0x225, "z"), (0x234, "l"), (0x235, "n"),
  (0x236, "t"), (0x237, "j"), (0x238, "db"), (0x239, "qp"), (0x23A, "a"), (0x23B, "c"),
  (0x23C, "c"), (0x23D, "l"), (0x23E, "t"), (0x23F, "s"), (0x240, "z"), (0x241, "'"),
  (0x242, "'"), (0x243, "b"), (0x244, "u"), (0x245, "^"), (0x246, "e"), (0x247, "e"),
  (0x248, "j"), (0x249, "j"), (0x24A, "q"), (0x24B, "q"), (0x24C, "r"), (0x24D, "r"),
  (0x24E, "y"), (0x24F, "y"), (0x1E9A, "a"), (0x1E9C, "s"), (0x1E9D, "s"), (0x1E9E, "ss"),
  (0x1E9F, "d"), (0x1EFA, "ll"), (0x1EFB, "ll"), (0x1EFC, "v"), (0x1EFD, "v"), (0x1EFE, "y"),
  (0x1EFF, "y")]

def latinSpelling? (c : Char) : Option String := latinSpellings.lookup c.toNat

end RecordQuery.Text
