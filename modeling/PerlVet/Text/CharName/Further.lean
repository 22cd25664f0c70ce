/-!
Further names of characters: names of control characters, abbreviations and corrected names.
-/

namespace PerlVet.Text.CharName

/-- Codes and the further names of their characters. -/
def furtherNames : List (Nat × List String) :=
  [(0x0, ["NULL", "NUL"]),
   (0x1, ["START OF HEADING", "SOH"]),
   (0x2, ["START OF TEXT", "STX"]),
   (0x3, ["END OF TEXT", "ETX"]),
   (0x4, ["END OF TRANSMISSION", "EOT"]),
   (0x5, ["ENQUIRY", "ENQ"]),
   (0x6, ["ACKNOWLEDGE", "ACK"]),
   (0x7, ["ALERT", "BEL"]),
   (0x8, ["BACKSPACE", "BS"]),
   (0x9, ["CHARACTER TABULATION", "HORIZONTAL TABULATION", "HT", "TAB"]),
   (0xA, ["LINE FEED", "NEW LINE", "END OF LINE", "LF", "NL", "EOL"]),
   (0xB, ["LINE TABULATION", "VERTICAL TABULATION", "VT"]),
   (0xC, ["FORM FEED", "FF"]),
   (0xD, ["CARRIAGE RETURN", "CR"]),
   (0xE, ["SHIFT OUT", "LOCKING-SHIFT ONE", "SO"]),
   (0xF, ["SHIFT IN", "LOCKING-SHIFT ZERO", "SI"]),
   (0x10, ["DATA LINK ESCAPE", "DLE"]),
   (0x11, ["DEVICE CONTROL ONE", "DC1"]),
   (0x12, ["DEVICE CONTROL TWO", "DC2"]),
   (0x13, ["DEVICE CONTROL THREE", "DC3"]),
   (0x14, ["DEVICE CONTROL FOUR", "DC4"]),
   (0x15, ["NEGATIVE ACKNOWLEDGE", "NAK"]),
   (0x16, ["SYNCHRONOUS IDLE", "SYN"]),
   (0x17, ["END OF TRANSMISSION BLOCK", "ETB"]),
   (0x18, ["CANCEL", "CAN"]),
   (0x19, ["END OF MEDIUM", "EOM"]),
   (0x1A, ["SUBSTITUTE", "SUB"]),
   (0x1B, ["ESCAPE", "ESC"]),
   (0x1C, ["INFORMATION SEPARATOR FOUR", "FILE SEPARATOR", "FS"]),
   (0x1D, ["INFORMATION SEPARATOR THREE", "GROUP SEPARATOR", "GS"]),
   (0x1E, ["INFORMATION SEPARATOR TWO", "RECORD SEPARATOR", "RS"]),
   (0x1F, ["INFORMATION SEPARATOR ONE", "UNIT SEPARATOR", "US"]),
   (0x20, ["SP"]),
   (0x7F, ["DELETE", "DEL"]),
   (0x80, ["PADDING CHARACTER", "PAD"]),
   (0x81, ["HIGH OCTET PRESET", "HOP"]),
   (0x82, ["BREAK PERMITTED HERE", "BPH"]),
   (0x83, ["NO BREAK HERE", "NBH"]),
   (0x84, ["INDEX", "IND"]),
   (0x85, ["NEXT LINE", "NEL"]),
   (0x86, ["START OF SELECTED AREA", "SSA"]),
   (0x87, ["END OF SELECTED AREA", "ESA"]),
   (0x88, ["CHARACTER TABULATION SET", "HORIZONTAL TABULATION SET", "HTS"]),
   (0x89, ["CHARACTER TABULATION WITH JUSTIFICATION",
    "HORIZONTAL TABULATION WITH JUSTIFICATION", "HTJ"]),
   (0x8A, ["LINE TABULATION SET", "VERTICAL TABULATION SET", "VTS"]),
   (0x8B, ["PARTIAL LINE FORWARD", "PARTIAL LINE DOWN", "PLD"]),
   (0x8C, ["PARTIAL LINE BACKWARD", "PARTIAL LINE UP", "PLU"]),
   (0x8D, ["REVERSE LINE FEED", "REVERSE INDEX", "RI"]),
   (0x8E, ["SINGLE SHIFT TWO", "SINGLE-SHIFT-2", "SS2"]),
   (0x8F, ["SINGLE SHIFT THREE", "SINGLE-SHIFT-3", "SS3"]),
   (0x90, ["DEVICE CONTROL STRING", "DCS"]),
   (0x91, ["PRIVATE USE ONE", "PRIVATE USE-1", "PU1"]),
   (0x92, ["PRIVATE USE TWO", "PRIVATE USE-2", "PU2"]),
   (0x93, ["SET TRANSMIT STATE", "STS"]),
   (0x94, ["CANCEL CHARACTER", "CCH"]),
   (0x95, ["MESSAGE WAITING", "MW"]),
   (0x96, ["START OF GUARDED AREA", "START OF PROTECTED AREA", "SPA"]),
   (0x97, ["END OF GUARDED AREA", "END OF PROTECTED AREA", "EPA"]),
   (0x98, ["START OF STRING", "SOS"]),
   (0x99, ["SINGLE GRAPHIC CHARACTER INTRODUCER", "SGC"]),
   (0x9A, ["SINGLE CHARACTER INTRODUCER", "SCI"]),
   (0x9B, ["CONTROL SEQUENCE INTRODUCER", "CSI"]),
   (0x9C, ["STRING TERMINATOR", "ST"]),
   (0x9D, ["OPERATING SYSTEM COMMAND", "OSC"]),
   (0x9E, ["PRIVACY MESSAGE", "PM"]),
   (0x9F, ["APPLICATION PROGRAM COMMAND", "APC"]),
   (0xA0, ["NBSP"]),
   (0xAD, ["SHY"]),
   (0x1A2, ["LATIN CAPITAL LETTER GHA"]),
   (0x1A3, ["LATIN SMALL LETTER GHA"]),
   (0x34F, ["CGJ"]),
   (0x61C, ["ALM"]),
   (0x709, ["SYRIAC SUBLINEAR COLON SKEWED LEFT"]),
   (0xCDE, ["KANNADA LETTER LLLA"]),
   (0xE9D, ["LAO LETTER FO FON"]),
   (0xE9F, ["LAO LETTER FO FAY"]),
   (0xEA3, ["LAO LETTER RO"]),
   (0xEA5, ["LAO LETTER LO"]),
   (0xFD0, ["TIBETAN MARK BKA- SHOG GI MGO RGYAN"]),
   (0x11EC, ["HANGUL JONGSEONG YESIEUNG-KIYEOK"]),
   (0x11ED, ["HANGUL JONGSEONG YESIEUNG-SSANGKIYEOK"]),
   (0x11EE, ["HANGUL JONGSEONG SSANGYESIEUNG"]),
   (0x11EF, ["HANGUL JONGSEONG YESIEUNG-KHIEUKH"]),
   (0x180B, ["FVS1"]),
   (0x180C, ["FVS2"]),
   (0x180D, ["FVS3"]),
   (0x180E, ["MVS"]),
   (0x180F, ["FVS4"]),
   (0x200B, ["ZWSP"]),
   (0x200C, ["ZWNJ"]),
   (0x200D, ["ZWJ"]),
   (0x200E, ["LRM"]),
   (0x200F, ["RLM"]),
   (0x202A, ["LRE"]),
   (0x202B, ["RLE"]),
   (0x202C, ["PDF"]),
   (0x202D, ["LRO"]),
   (0x202E, ["RLO"]),
   (0x202F, ["NNBSP"]),
   (0x205F, ["MMSP"]),
   (0x2060, ["WJ"]),
   (0x2066, ["LRI"]),
   (0x2067, ["RLI"]),
   (0x2068, ["FSI"]),
   (0x2069, ["PDI"]),
   (0x2118, ["WEIERSTRASS ELLIPTIC FUNCTION"]),
   (0x2448, ["MICR ON US SYMBOL"]),
   (0x2449, ["MICR DASH SYMBOL"]),
   (0x2B7A, ["LEFTWARDS TRIANGLE-HEADED ARROW WITH DOUBLE VERTICAL STROKE"]),
   (0x2B7C, ["RIGHTWARDS TRIANGLE-HEADED ARROW WITH DOUBLE VERTICAL STROKE"]),
   (0xA015, ["YI SYLLABLE ITERATION MARK"]),
   (0xAA6E, ["MYANMAR LETTER KHAMTI LLA"]),
   (0xFE18, ["PRESENTATION FORM FOR VERTICAL RIGHT WHITE LENTICULAR BRACKET"]),
   (0xFEFF, ["BYTE ORDER MARK", "BOM", "ZWNBSP"]),
   (0x122D4, ["CUNEIFORM SIGN NU11 TENU"]),
   (0x122D5, ["CUNEIFORM SIGN NU11 OVER NU11 BUR OVER BUR"]),
   (0x16E56, ["MEDEFAIDRIN CAPITAL LETTER H"]),
   (0x16E57, ["MEDEFAIDRIN CAPITAL LETTER NG"]),
   (0x16E76, ["MEDEFAIDRIN SMALL LETTER H"]),
   (0x16E77, ["MEDEFAIDRIN SMALL LETTER NG"]),
   (0x1B001, ["HENTAIGANA LETTER E-1"]),
   (0x1D0C5, ["BYZANTINE MUSICAL SYMBOL FTHORA SKLIRON CHROMA VASIS"])]

end PerlVet.Text.CharName
