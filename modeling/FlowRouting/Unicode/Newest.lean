import FlowRouting.Unicode.Property

/-!
# Characters of the newest edition

The tables of properties are those of edition 16.0 of the standard, by which patterns go. What
shows up in messages and what may stand in a name goes by edition 17.0. It is described by what it
adds; the two editions agree on the older characters as far as these sets are concerned.
-/

namespace FlowRouting.Unicode.Newest

/-- The new letters, and the new marks that count as letters. -/
def newAlphabetic : CharSet :=
  .ofTable "88f c5c cdc a7ce-a7cf a7d2 a7d4 a7f1 10940-10959 10ec5-10ec7 10efa-10efb 11b60-11b67
    11db0-11ddb 16ea0-16eb8 16ebb-16ed3 16ff2-16ff6 187f8-187ff 18d09-18d1e 18d80-18df2
    1e6c0-1e6de 1e6e0-1e6f5 1e6fe-1e6ff 2b73a-2b73f 2cea2-2cead 323b0-33479"

/-- The new marks that join to the character before them. -/
def newGraphemeExtend : CharSet :=
  .ofTable "1acf-1add 1ae0-1aeb 10efa-10efb 11b60 11b62-11b64 11b66 1e6e3 1e6e6 1e6ee-1e6ef 1e6f5"

/-- The new digits and numbers. -/
def newNumeric : CharSet :=
  .ofTable "11de0-11de9 16ff4-16ff6"

/-- The new signs and symbols. -/
def newSymbols : CharSet :=
  .ofTable "20c1 2b96 fbc3-fbd2 fd90-fd91 fdc8-fdce 10ed0-10ed8 1ccfa-1ccfc 1ceba-1ced0 1cee0-1cef0
    1f6d8 1f777-1f77a 1f8d0-1f8d8 1fa54-1fa57 1fa8a 1fa8e 1fac8 1facd 1faea 1faef 1fbfa"

/-- The alphabetic characters. -/
def alphabetic : CharSet :=
  Unicode.alphabetic.union newAlphabetic

/-- The digits and other numbers of all scripts. -/
def numeric : CharSet :=
  (CharSet.ofCategories [.decimalNumber, .letterNumber, .otherNumber]).union newNumeric

/-- The characters that join to the one before them and do not stand alone. -/
def graphemeExtend : CharSet :=
  Unicode.graphemeExtend.union newGraphemeExtend

/-- The characters without a shape of their own: control characters, separators, and what is not
assigned. -/
def shapeless : CharSet :=
  (CharSet.ofCategories
    [.control, .format, .privateUse, .unassigned, .lineSeparator, .paragraphSeparator,
      .spaceSeparator]).diff
    (newAlphabetic.union (newGraphemeExtend.union (newNumeric.union newSymbols)))

end FlowRouting.Unicode.Newest
