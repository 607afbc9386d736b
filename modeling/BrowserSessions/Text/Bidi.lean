import BrowserSessions.Text.Ranges

/-!
# Text.Bidi

The bidirectional class of every character, as of Unicode 15.0, which the Bidi Rule for domain
labels reads.

The table is a text of runs `startC`: a hexadecimal code point and the letter of the class that
holds from it up to the next run's start. Letters: `L` left to right, `R` right to left, `A`
Arabic letter, `E` European number, `S` European separator, `T` European terminator, `N` Arabic
number, `C` common separator, `M` nonspacing mark, `B` boundary neutral, `P` paragraph
separator, `G` segment separator, `W` white space, `O` other neutral, `X` the explicit
embedding, override and isolate controls. Unassigned code points take the class of the run
before them.
-/

namespace BrowserSessions.Text

/-- The bidirectional class of a character. -/
inductive BidiClass where
  | leftToRight
  | rightToLeft
  | arabicLetter
  | europeanNumber
  | europeanSeparator
  | europeanTerminator
  | arabicNumber
  | commonSeparator
  | nonspacingMark
  | boundaryNeutral
  | paragraphSeparator
  | segmentSeparator
  | whiteSpace
  | otherNeutral
  /-- The explicit embedding, override and isolate controls. -/
  | explicitControl
  deriving BEq, DecidableEq, Repr, Inhabited

/-- The class a letter of the table stands for. -/
def BidiClass.ofLetter : Char → BidiClass
  | 'R' => .rightToLeft
  | 'A' => .arabicLetter
  | 'E' => .europeanNumber
  | 'S' => .europeanSeparator
  | 'T' => .europeanTerminator
  | 'N' => .arabicNumber
  | 'C' => .commonSeparator
  | 'M' => .nonspacingMark
  | 'B' => .boundaryNeutral
  | 'P' => .paragraphSeparator
  | 'G' => .segmentSeparator
  | 'W' => .whiteSpace
  | 'O' => .otherNeutral
  | 'X' => .explicitControl
  | _ => .leftToRight

/-- Whether a class writes from right to left: right to left, Arabic letter or Arabic number. -/
def BidiClass.isRightToLeft (b : BidiClass) : Bool :=
  b == .rightToLeft || b == .arabicLetter || b == .arabicNumber

/-- The table of bidirectional classes. -/
def bidiText : String :=
  "0B 9G AP BG CW DP EB 1CP 1FG 20W 21O 23T 26O 2BS 2CC 2DS 2EC 30E 3AC 3BO 41L 5BO 61L 7BO 7FB 85P"
  ++ " 86B A0C A1O A2T A6O AAL ABO ADB AEO B0T B2E B4O B5L B6O B9E BAL BBO C0L D7O D8L F7O F8L 2B9O"
  ++ " 2BBL 2C2O 2D0L 2D2O 2E0L 2E5O 2EEL 2EFO 300M 370L 374O 376L 37EO 37FL 384O 386L 387O 388L 3F6O"
  ++ " 3F7L 483M 48AL 58AO 58FT 591M 5BER 5BFM 5C0R 5C1M 5C3R 5C4M 5C6R 5C7M 5D0R 600N 606O 608A 609T"
  ++ " 60BA 60CC 60DA 60EO 610M 61BA 64BM 660N 66AT 66BN 66DA 670M 671A 6D6M 6DDN 6DEO 6DFM 6E5A 6E7M"
  ++ " 6E9O 6EAM 6EEA 6F0E 6FAA 711M 712A 730M 74DA 7A6M 7B1A 7C0R 7EBM 7F4R 7F6O 7FAR 7FDM 7FER 816M"
  ++ " 81AR 81BM 824R 825M 828R 829M 830R 859M 85ER 860A 890N 898M 8A0A 8CAM 8E2N 8E3M 903L 93AM 93BL"
  ++ " 93CM 93DL 941M 949L 94DM 94EL 951M 958L 962M 964L 981M 982L 9BCM 9BDL 9C1M 9C7L 9CDM 9CEL 9E2M"
  ++ " 9E6L 9F2T 9F4L 9FBT 9FCL 9FEM A03L A3CM A3EL A41M A59L A70M A72L A75M A76L A81M A83L ABCM ABDL"
  ++ " AC1M AC9L ACDM AD0L AE2M AE6L AF1T AF9L AFAM B02L B3CM B3DL B3FM B40L B41M B47L B4DM B57L B62M"
  ++ " B66L B82M B83L BC0M BC1L BCDM BD0L BF3O BF9T BFAO C00M C01L C04M C05L C3CM C3DL C3EM C41L C46M"
  ++ " C58L C62M C66L C78O C7FL C81M C82L CBCM CBDL CCCM CD5L CE2M CE6L D00M D02L D3BM D3DL D41M D46L"
  ++ " D4DM D4EL D62M D66L D81M D82L DCAM DCFL DD2M DD8L E31M E32L E34M E3FT E40L E47M E4FL EB1M EB2L"
  ++ " EB4M EBDL EC8M ED0L F18M F1AL F35M F36L F37M F38L F39M F3AO F3EL F71M F7FL F80M F85L F86M F88L"
  ++ " F8DM FBEL FC6M FC7L 102DM 1031L 1032M 1038L 1039M 103BL 103DM 103FL 1058M 105AL 105EM 1061L"
  ++ " 1071M 1075L 1082M 1083L 1085M 1087L 108DM 108EL 109DM 109EL 135DM 1360L 1390O 13A0L 1400O 1401L"
  ++ " 1680W 1681L 169BO 16A0L 1712M 1715L 1732M 1734L 1752M 1760L 1772M 1780L 17B4M 17B6L 17B7M 17BEL"
  ++ " 17C6M 17C7L 17C9M 17D4L 17DBT 17DCL 17DDM 17E0L 17F0O 180BM 180EB 180FM 1810L 1885M 1887L 18A9M"
  ++ " 18AAL 1920M 1923L 1927M 1929L 1932M 1933L 1939M 1940O 1946L 19DEO 1A00L 1A17M 1A19L 1A1BM 1A1EL"
  ++ " 1A56M 1A57L 1A58M 1A61L 1A62M 1A63L 1A65M 1A6DL 1A73M 1A80L 1AB0M 1B04L 1B34M 1B35L 1B36M 1B3BL"
  ++ " 1B3CM 1B3DL 1B42M 1B43L 1B6BM 1B74L 1B80M 1B82L 1BA2M 1BA6L 1BA8M 1BAAL 1BABM 1BAEL 1BE6M 1BE7L"
  ++ " 1BE8M 1BEAL 1BEDM 1BEEL 1BEFM 1BF2L 1C2CM 1C34L 1C36M 1C3BL 1CD0M 1CD3L 1CD4M 1CE1L 1CE2M 1CE9L"
  ++ " 1CEDM 1CEEL 1CF4M 1CF5L 1CF8M 1CFAL 1DC0M 1E00L 1FBDO 1FBEL 1FBFO 1FC2L 1FCDO 1FD0L 1FDDO 1FE0L"
  ++ " 1FEDO 1FF2L 1FFDO 2000W 200BB 200EL 200FR 2010O 2028W 2029P 202AX 202FC 2030T 2035O 2044C 2045O"
  ++ " 205FW 2060B 2066X 206AB 2070E 2071L 2074E 207AS 207CO 207FL 2080E 208AS 208CO 2090L 20A0T 20D0M"
  ++ " 2100O 2102L 2103O 2107L 2108O 210AL 2114O 2115L 2116O 2119L 211EO 2124L 2125O 2126L 2127O 2128L"
  ++ " 2129O 212AL 212ET 212FL 213AO 213CL 2140O 2145L 214AO 214EL 2150O 2160L 2189O 2212S 2213T 2214O"
  ++ " 2336L 237BO 2395L 2396O 2488E 249CL 24EAO 26ACL 26ADO 2800L 2900O 2C00L 2CE5O 2CEBL 2CEFM 2CF2L"
  ++ " 2CF9O 2D00L 2D7FM 2D80L 2DE0M 2E00O 3000W 3001O 3005L 3008O 3021L 302AM 302EL 3030O 3031L 3036O"
  ++ " 3038L 303DO 3041L 3099M 309BO 309DL 30A0O 30A1L 30FBO 30FCL 31C0O 31F0L 321DO 3220L 3250O 3260L"
  ++ " 327CO 327FL 32B1O 32C0L 32CCO 32D0L 3377O 337BL 33DEO 33E0L 33FFO 3400L 4DC0O 4E00L A490O A4D0L"
  ++ " A60DO A610L A66FM A673O A674M A67EO A680L A69EM A6A0L A6F0M A6F2L A700O A722L A788O A789L A802M"
  ++ " A803L A806M A807L A80BM A80CL A825M A827L A828O A82CM A830L A838T A840L A874O A880L A8C4M A8CEL"
  ++ " A8E0M A8F2L A8FFM A900L A926M A92EL A947M A952L A980M A983L A9B3M A9B4L A9B6M A9BAL A9BCM A9BEL"
  ++ " A9E5M A9E6L AA29M AA2FL AA31M AA33L AA35M AA40L AA43M AA44L AA4CM AA4DL AA7CM AA7DL AAB0M AAB1L"
  ++ " AAB2M AAB5L AAB7M AAB9L AABEM AAC0L AAC1M AAC2L AAECM AAEEL AAF6M AB01L AB6AO AB70L ABE5M ABE6L"
  ++ " ABE8M ABE9L ABEDM ABF0L FB1DR FB1EM FB1FR FB29S FB2AR FB50A FD3EO FD50A FDCFO FDF0A FDFDO FE00M"
  ++ " FE10O FE20M FE30O FE50C FE51O FE52C FE54O FE55C FE56O FE5FT FE60O FE62S FE64O FE69T FE6BO FE70A"
  ++ " FEFFB FF01O FF03T FF06O FF0BS FF0CC FF0DS FF0EC FF10E FF1AC FF1BO FF21L FF3BO FF41L FF5BO FF66L"
  ++ " FFE0T FFE2O FFE5T FFE8O 10000L 10101O 10102L 10140O 1018DL 10190O 101D0L 101FDM 10280L 102E0M"
  ++ " 102E1E 10300L 10376M 10380L 10800R 1091FO 10920R 10A01M 10A10R 10A38M 10A40R 10AE5M 10AEBR"
  ++ " 10B39O 10B40R 10D00A 10D24M 10D30N 10E80R 10EABM 10EADR 10EFDM 10F00R 10F30A 10F46M 10F51A"
  ++ " 10F70R 10F82M 10F86R 11000L 11001M 11002L 11038M 11047L 11052O 11066L 11070M 11071L 11073M"
  ++ " 11075L 1107FM 11082L 110B3M 110B7L 110B9M 110BBL 110C2M 110CDL 11100M 11103L 11127M 1112CL"
  ++ " 1112DM 11136L 11173M 11174L 11180M 11182L 111B6M 111BFL 111C9M 111CDL 111CFM 111D0L 1122FM"
  ++ " 11232L 11234M 11235L 11236M 11238L 1123EM 1123FL 11241M 11280L 112DFM 112E0L 112E3M 112F0L"
  ++ " 11300M 11302L 1133BM 1133DL 11340M 11341L 11366M 11400L 11438M 11440L 11442M 11445L 11446M"
  ++ " 11447L 1145EM 1145FL 114B3M 114B9L 114BAM 114BBL 114BFM 114C1L 114C2M 114C4L 115B2M 115B8L"
  ++ " 115BCM 115BEL 115BFM 115C1L 115DCM 11600L 11633M 1163BL 1163DM 1163EL 1163FM 11641L 11660O"
  ++ " 11680L 116ABM 116ACL 116ADM 116AEL 116B0M 116B6L 116B7M 116B8L 1171DM 11720L 11722M 11726L"
  ++ " 11727M 11730L 1182FM 11838L 11839M 1183BL 1193BM 1193DL 1193EM 1193FL 11943M 11944L 119D4M"
  ++ " 119DCL 119E0M 119E1L 11A01M 11A07L 11A09M 11A0BL 11A33M 11A39L 11A3BM 11A3FL 11A47M 11A50L"
  ++ " 11A51M 11A57L 11A59M 11A5CL 11A8AM 11A97L 11A98M 11A9AL 11C30M 11C3EL 11C92M 11CA9L 11CAAM"
  ++ " 11CB1L 11CB2M 11CB4L 11CB5M 11D00L 11D31M 11D46L 11D47M 11D50L 11D90M 11D93L 11D95M 11D96L"
  ++ " 11D97M 11D98L 11EF3M 11EF5L 11F00M 11F02L 11F36M 11F3EL 11F40M 11F41L 11F42M 11F43L 11FD5O"
  ++ " 11FDDT 11FE1O 11FFFL 13440M 13441L 13447M 14400L 16AF0M 16AF5L 16B30M 16B37L 16F4FM 16F50L"
  ++ " 16F8FM 16F93L 16FE2O 16FE3L 16FE4M 16FF0L 1BC9DM 1BC9FL 1BCA0B 1CF00M 1CF50L 1D167M 1D16AL"
  ++ " 1D173B 1D17BM 1D183L 1D185M 1D18CL 1D1AAM 1D1AEL 1D1E9O 1D242M 1D245O 1D2C0L 1D300O 1D360L"
  ++ " 1D6DBO 1D6DCL 1D715O 1D716L 1D74FO 1D750L 1D789O 1D78AL 1D7C3O 1D7C4L 1D7CEE 1D800L 1DA00M"
  ++ " 1DA37L 1DA3BM 1DA6DL 1DA75M 1DA76L 1DA84M 1DA85L 1DA9BM 1DF00L 1E000M 1E030L 1E08FM 1E100L"
  ++ " 1E130M 1E137L 1E2AEM 1E2C0L 1E2ECM 1E2F0L 1E2FFT 1E4D0L 1E4ECM 1E4F0L 1E800R 1E8D0M 1E900R"
  ++ " 1E944M 1E94BR 1EC71A 1EEF0O 1F100E 1F10BO 1F110L 1F12FO 1F130L 1F16AO 1F170L 1F1ADO 1F1E6L"
  ++ " 1F260O 1FBF0E 20000L E0001B E0100M F0000L"

/-- The runs of the table: where each starts, and its class. -/
def bidiRuns : Array (Nat × BidiClass) :=
  (bidiText.splitOn " ").toArray.map fun tok =>
    let cs := tok.toList
    (hexValue cs.dropLast, BidiClass.ofLetter (cs.getLast?.getD 'L'))

/-- The class of the last run that starts at or before a code point, among the runs from `lo`
    up to below `hi`, by halving the range of candidates. -/
def findBidi (n : Nat) (lo hi : Nat) : BidiClass :=
  if _h : lo + 1 < hi then
    let mid := (lo + hi) / 2
    if (bidiRuns[mid]?.map (·.1)).getD 0 ≤ n then findBidi n mid hi
    else findBidi n lo mid
  else (bidiRuns[lo]?.map (·.2)).getD .leftToRight
termination_by hi - lo

/-- The bidirectional class of a character. -/
def bidiClass (c : Char) : BidiClass := findBidi c.toNat 0 bidiRuns.size

end BrowserSessions.Text
