/-!
# Folding data for names

Names that look alike are folded to one spelling.  `foldRows` lists the characters whose
folded form is not just their lower case, `ignoredRanges` those that leave no trace, and
`refusedRanges` those that no name may hold.
-/

namespace DraftBoard.Url

/-- The folded forms of successive characters from `first` on: code points in hexadecimal
with `+` between them, or `-` for a character that is not listed. -/
structure FoldRow where
  first : Nat
  forms : String

/-- Characters whose folded form is not just their lower case. -/
def foldRows : List FoldRow := [
  ⟨0xaa, "61"⟩,
  ⟨0xb2, "32 33 - 3bc"⟩,
  ⟨0xb9, "31 6f - 31+2044+34 31+2044+32 33+2044+34"⟩,
  ⟨0x132, "69+6a 69+6a"⟩,
  ⟨0x13f, "6c+b7 6c+b7"⟩,
  ⟨0x149, "2bc+6e"⟩,
  ⟨0x17f, "73"⟩,
  ⟨0x1c4, "64+17e 64+17e 64+17e 6c+6a 6c+6a 6c+6a 6e+6a 6e+6a 6e+6a"⟩,
  ⟨0x1f1, "64+7a 64+7a 64+7a"⟩,
  ⟨0x2b0, "68 266 6a 72 279 27b 281 77 79"⟩,
  ⟨0x2e0, "263 6c 73 78 295"⟩,
  ⟨0x340, "300 301 - 313 308+301 3b9"⟩,
  ⟨0x374, "2b9"⟩,
  ⟨0x37e, "3b"⟩,
  ⟨0x387, "b7"⟩,
  ⟨0x3d0, "3b2 3b8 3c5 3cd 3cb 3c6 3c0"⟩,
  ⟨0x3f0, "3ba 3c1 3c3 - - 3b5"⟩,
  ⟨0x3f9, "3c3"⟩,
  ⟨0x587, "565+582"⟩,
  ⟨0x675, "627+674 648+674 6c7+674 64a+674"⟩,
  ⟨0x958, "915+93c 916+93c 917+93c 91c+93c 921+93c 922+93c 92b+93c 92f+93c"⟩,
  ⟨0x9dc, "9a1+9bc 9a2+9bc - 9af+9bc"⟩,
  ⟨0xa33, "a32+a3c - - a38+a3c"⟩,
  ⟨0xa59, "a16+a3c a17+a3c a1c+a3c - - a2b+a3c"⟩,
  ⟨0xb5c, "b21+b3c b22+b3c"⟩,
  ⟨0xe33, "e4d+e32"⟩,
  ⟨0xeb3, "ecd+eb2"⟩,
  ⟨0xedc, "eab+e99 eab+ea1"⟩,
  ⟨0xf0c, "f0b"⟩,
  ⟨0xf43, "f42+fb7"⟩,
  ⟨0xf4d, "f4c+fb7"⟩,
  ⟨0xf52, "f51+fb7"⟩,
  ⟨0xf57, "f56+fb7"⟩,
  ⟨0xf5c, "f5b+fb7"⟩,
  ⟨0xf69, "f40+fb5"⟩,
  ⟨0xf73, "f71+f72 - f71+f74 fb2+f80 fb2+f71+f80 fb3+f80 fb3+f71+f80"⟩,
  ⟨0xf81, "f71+f80"⟩,
  ⟨0xf93, "f92+fb7"⟩,
  ⟨0xf9d, "f9c+fb7"⟩,
  ⟨0xfa2, "fa1+fb7"⟩,
  ⟨0xfa7, "fa6+fb7"⟩,
  ⟨0xfac, "fab+fb7"⟩,
  ⟨0xfb9, "f90+fb5"⟩,
  ⟨0x10fc, "10dc"⟩,
  ⟨0x13f8, "13f0 13f1 13f2 13f3 13f4 13f5"⟩,
  ⟨0x1c80, "432 434 43e 441 442 442 44a 463 a64b"⟩,
  ⟨0x1d2c, "61 e6 62 - 64 65 1dd 67 68 69 6a 6b 6c 6d 6e - 6f 223 70 72 74 75 77 61 250 251"⟩,
  ⟨0x1d46, "1d02 62 64 65 259 25b 25c 67 - 6b 6d 14b 6f 254 1d16 1d17 70 74 75 1d1d 26f 76 1d25"⟩,
  ⟨0x1d5d, "3b2 3b3 3b4 3c6 3c7 69 72 75 76 3b2 3b3 3c1 3c6 3c7"⟩,
  ⟨0x1d78, "43d"⟩,
  ⟨0x1d9b, "252 63 255 f0 25c 66 25f 261 265 268 269 26a 1d7b 29d 26d 1d85 29f 271 270 272 273"⟩,
  ⟨0x1db0, "274 275 278 282 283 1ab 289 28a 1d1c 28b 28c 7a 290 291 292 3b8"⟩,
  ⟨0x1e9a, "61+2be 1e61"⟩,
  ⟨0x1f71, "3ac - 3ad - 3ae - 3af - 3cc - 3cd - 3ce - - 1f00+3b9 1f01+3b9 1f02+3b9 1f03+3b9"⟩,
  ⟨0x1f84, "1f04+3b9 1f05+3b9 1f06+3b9 1f07+3b9 1f00+3b9 1f01+3b9 1f02+3b9 1f03+3b9 1f04+3b9"⟩,
  ⟨0x1f8d, "1f05+3b9 1f06+3b9 1f07+3b9 1f20+3b9 1f21+3b9 1f22+3b9 1f23+3b9 1f24+3b9 1f25+3b9"⟩,
  ⟨0x1f96, "1f26+3b9 1f27+3b9 1f20+3b9 1f21+3b9 1f22+3b9 1f23+3b9 1f24+3b9 1f25+3b9 1f26+3b9"⟩,
  ⟨0x1f9f, "1f27+3b9 1f60+3b9 1f61+3b9 1f62+3b9 1f63+3b9 1f64+3b9 1f65+3b9 1f66+3b9 1f67+3b9"⟩,
  ⟨0x1fa8, "1f60+3b9 1f61+3b9 1f62+3b9 1f63+3b9 1f64+3b9 1f65+3b9 1f66+3b9 1f67+3b9"⟩,
  ⟨0x1fb2, "1f70+3b9 3b1+3b9 3ac+3b9 - - 1fb6+3b9"⟩,
  ⟨0x1fbb, "3ac 3b1+3b9 - 3b9"⟩,
  ⟨0x1fc2, "1f74+3b9 3b7+3b9 3ae+3b9 - - 1fc6+3b9 - 3ad - 3ae 3b7+3b9"⟩,
  ⟨0x1fd3, "390"⟩,
  ⟨0x1fdb, "3af"⟩,
  ⟨0x1fe3, "3b0"⟩,
  ⟨0x1feb, "3cd"⟩,
  ⟨0x1fef, "60 - - 1f7c+3b9 3c9+3b9 3ce+3b9 - - 1ff6+3b9 - 3cc - 3ce 3c9+3b9"⟩,
  ⟨0x2011, "2010"⟩,
  ⟨0x2033, "2032+2032 2032+2032+2032 - 2035+2035 2035+2035+2035"⟩,
  ⟨0x203c, "21+21"⟩,
  ⟨0x2047, "3f+3f 3f+21 21+3f"⟩,
  ⟨0x2057, "2032+2032+2032+2032"⟩,
  ⟨0x2070, "30 69 - - 34 35 36 37 38 39 2b 2212 3d 28 29 6e 30 31 32 33 34 35 36 37 38 39 2b"⟩,
  ⟨0x208b, "2212 3d 28 29 - 61 65 6f 78 259 68 6b 6c 6d 6e 70 73 74"⟩,
  ⟨0x20a8, "72+73"⟩,
  ⟨0x2100, "61+2f+63 61+2f+73 63 b0+63 - 63+2f+6f 63+2f+75 25b - b0+66 67 68 68 68 68 127 69 69"⟩,
  ⟨0x2112, "6c 6c - 6e 6e+6f - - 70 71 72 72 72 - - 73+6d 74+65+6c 74+6d - 7a"⟩,
  ⟨0x2128, "7a"⟩,
  ⟨0x212c, "62 63 - 65 65 66 - 6d 6f 5d0 5d1 5d2 5d3 69 - 66+61+78 3c0 3b3 3b3 3c0 2211"⟩,
  ⟨0x2145, "64 64 65 69 6a"⟩,
  ⟨0x2150, "31+2044+37 31+2044+39 31+2044+31+30 31+2044+33 32+2044+33 31+2044+35 32+2044+35"⟩,
  ⟨0x2157, "33+2044+35 34+2044+35 31+2044+36 35+2044+36 31+2044+38 33+2044+38 35+2044+38"⟩,
  ⟨0x215e, "37+2044+38 31+2044 69 69+69 69+69+69 69+76 76 76+69 76+69+69 76+69+69+69 69+78 78"⟩,
  ⟨0x216a, "78+69 78+69+69 6c 63 64 6d 69 69+69 69+69+69 69+76 76 76+69 76+69+69 76+69+69+69"⟩,
  ⟨0x2178, "69+78 78 78+69 78+69+69 6c 63 64 6d"⟩,
  ⟨0x2189, "30+2044+33"⟩,
  ⟨0x222c, "222b+222b 222b+222b+222b - 222e+222e 222e+222e+222e"⟩,
  ⟨0x2329, "3008 3009"⟩,
  ⟨0x2460, "31 32 33 34 35 36 37 38 39 31+30 31+31 31+32 31+33 31+34 31+35 31+36 31+37 31+38"⟩,
  ⟨0x2472, "31+39 32+30 28+31+29 28+32+29 28+33+29 28+34+29 28+35+29 28+36+29 28+37+29 28+38+29"⟩,
  ⟨0x247c, "28+39+29 28+31+30+29 28+31+31+29 28+31+32+29 28+31+33+29 28+31+34+29 28+31+35+29"⟩,
  ⟨0x2483, "28+31+36+29 28+31+37+29 28+31+38+29 28+31+39+29 28+32+30+29"⟩,
  ⟨0x249c, "28+61+29 28+62+29 28+63+29 28+64+29 28+65+29 28+66+29 28+67+29 28+68+29 28+69+29"⟩,
  ⟨0x24a5, "28+6a+29 28+6b+29 28+6c+29 28+6d+29 28+6e+29 28+6f+29 28+70+29 28+71+29 28+72+29"⟩,
  ⟨0x24ae, "28+73+29 28+74+29 28+75+29 28+76+29 28+77+29 28+78+29 28+79+29 28+7a+29 61 62 63 64"⟩,
  ⟨0x24ba, "65 66 67 68 69 6a 6b 6c 6d 6e 6f 70 71 72 73 74 75 76 77 78 79 7a 61 62 63 64 65 66"⟩,
  ⟨0x24d6, "67 68 69 6a 6b 6c 6d 6e 6f 70 71 72 73 74 75 76 77 78 79 7a 30"⟩,
  ⟨0x2a0c, "222b+222b+222b+222b"⟩,
  ⟨0x2a74, "3a+3a+3d 3d+3d 3d+3d+3d"⟩,
  ⟨0x2adc, "2add+338"⟩,
  ⟨0x2c7c, "6a 76"⟩,
  ⟨0x2d6f, "2d61"⟩,
  ⟨0x2e9f, "6bcd"⟩,
  ⟨0x2ef3, "9f9f"⟩,
  ⟨0x2f00, "4e00 4e28 4e36 4e3f 4e59 4e85 4e8c 4ea0 4eba 513f 5165 516b 5182 5196 51ab 51e0"⟩,
  ⟨0x2f10, "51f5 5200 529b 52f9 5315 531a 5338 5341 535c 5369 5382 53b6 53c8 53e3 56d7 571f"⟩,
  ⟨0x2f20, "58eb 5902 590a 5915 5927 5973 5b50 5b80 5bf8 5c0f 5c22 5c38 5c6e 5c71 5ddb 5de5"⟩,
  ⟨0x2f30, "5df1 5dfe 5e72 5e7a 5e7f 5ef4 5efe 5f0b 5f13 5f50 5f61 5f73 5fc3 6208 6236 624b"⟩,
  ⟨0x2f40, "652f 6534 6587 6597 65a4 65b9 65e0 65e5 66f0 6708 6728 6b20 6b62 6b79 6bb3 6bcb"⟩,
  ⟨0x2f50, "6bd4 6bdb 6c0f 6c14 6c34 706b 722a 7236 723b 723f 7247 7259 725b 72ac 7384 7389"⟩,
  ⟨0x2f60, "74dc 74e6 7518 751f 7528 7530 758b 7592 7676 767d 76ae 76bf 76ee 77db 77e2 77f3"⟩,
  ⟨0x2f70, "793a 79b8 79be 7a74 7acb 7af9 7c73 7cf8 7f36 7f51 7f8a 7fbd 8001 800c 8012 8033"⟩,
  ⟨0x2f80, "807f 8089 81e3 81ea 81f3 81fc 820c 821b 821f 826e 8272 8278 864d 866b 8840 884c"⟩,
  ⟨0x2f90, "8863 897e 898b 89d2 8a00 8c37 8c46 8c55 8c78 8c9d 8d64 8d70 8db3 8eab 8eca 8f9b"⟩,
  ⟨0x2fa0, "8fb0 8fb5 9091 9149 91c6 91cc 91d1 9577 9580 961c 96b6 96b9 96e8 9751 975e 9762"⟩,
  ⟨0x2fb0, "9769 97cb 97ed 97f3 9801 98a8 98db 98df 9996 9999 99ac 9aa8 9ad8 9adf 9b25 9b2f"⟩,
  ⟨0x2fc0, "9b32 9b3c 9b5a 9ce5 9e75 9e7f 9ea5 9ebb 9ec3 9ecd 9ed1 9ef9 9efd 9f0e 9f13 9f20"⟩,
  ⟨0x2fd0, "9f3b 9f4a 9f52 9f8d 9f9c 9fa0"⟩,
  ⟨0x3002, "2e"⟩,
  ⟨0x3036, "3012 - 5341 5344 5345"⟩,
  ⟨0x309f, "3088+308a"⟩,
  ⟨0x30ff, "30b3+30c8"⟩,
  ⟨0x3131, "1100 1101 11aa 1102 11ac 11ad 1103 1104 1105 11b0 11b1 11b2 11b3 11b4 11b5 111a"⟩,
  ⟨0x3141, "1106 1107 1108 1121 1109 110a 110b 110c 110d 110e 110f 1110 1111 1112 1161 1162"⟩,
  ⟨0x3151, "1163 1164 1165 1166 1167 1168 1169 116a 116b 116c 116d 116e 116f 1170 1171 1172"⟩,
  ⟨0x3161, "1173 1174 1175 - 1114 1115 11c7 11c8 11cc 11ce 11d3 11d7 11d9 111c 11dd 11df 111d"⟩,
  ⟨0x3172, "111e 1120 1122 1123 1127 1129 112b 112c 112d 112e 112f 1132 1136 1140 1147 114c"⟩,
  ⟨0x3182, "11f1 11f2 1157 1158 1159 1184 1185 1188 1191 1192 1194 119e 11a1"⟩,
  ⟨0x3192, "4e00 4e8c 4e09 56db 4e0a 4e2d 4e0b 7532 4e59 4e19 4e01 5929 5730 4eba"⟩,
  ⟨0x3200, "28+1100+29 28+1102+29 28+1103+29 28+1105+29 28+1106+29 28+1107+29 28+1109+29"⟩,
  ⟨0x3207, "28+110b+29 28+110c+29 28+110e+29 28+110f+29 28+1110+29 28+1111+29 28+1112+29"⟩,
  ⟨0x320e, "28+ac00+29 28+b098+29 28+b2e4+29 28+b77c+29 28+b9c8+29 28+bc14+29 28+c0ac+29"⟩,
  ⟨0x3215, "28+c544+29 28+c790+29 28+cc28+29 28+ce74+29 28+d0c0+29 28+d30c+29 28+d558+29"⟩,
  ⟨0x321c, "28+c8fc+29 28+c624+c804+29 28+c624+d6c4+29 - 28+4e00+29 28+4e8c+29 28+4e09+29"⟩,
  ⟨0x3223, "28+56db+29 28+4e94+29 28+516d+29 28+4e03+29 28+516b+29 28+4e5d+29 28+5341+29"⟩,
  ⟨0x322a, "28+6708+29 28+706b+29 28+6c34+29 28+6728+29 28+91d1+29 28+571f+29 28+65e5+29"⟩,
  ⟨0x3231, "28+682a+29 28+6709+29 28+793e+29 28+540d+29 28+7279+29 28+8ca1+29 28+795d+29"⟩,
  ⟨0x3238, "28+52b4+29 28+4ee3+29 28+547c+29 28+5b66+29 28+76e3+29 28+4f01+29 28+8cc7+29"⟩,
  ⟨0x323f, "28+5354+29 28+796d+29 28+4f11+29 28+81ea+29 28+81f3+29 554f 5e7c 6587 7b8f"⟩,
  ⟨0x3250, "70+74+65 32+31 32+32 32+33 32+34 32+35 32+36 32+37 32+38 32+39 33+30 33+31 33+32"⟩,
  ⟨0x325d, "33+33 33+34 33+35 1100 1102 1103 1105 1106 1107 1109 110b 110c 110e 110f 1110 1111"⟩,
  ⟨0x326d, "1112 ac00 b098 b2e4 b77c b9c8 bc14 c0ac c544 c790 cc28 ce74 d0c0 d30c d558"⟩,
  ⟨0x327c, "cc38+ace0 c8fc+c758 c6b0 - 4e00 4e8c 4e09 56db 4e94 516d 4e03 516b 4e5d 5341 6708"⟩,
  ⟨0x328b, "706b 6c34 6728 91d1 571f 65e5 682a 6709 793e 540d 7279 8ca1 795d 52b4 79d8 7537"⟩,
  ⟨0x329b, "5973 9069 512a 5370 6ce8 9805 4f11 5199 6b63 4e0a 4e2d 4e0b 5de6 53f3 533b 5b97"⟩,
  ⟨0x32ab, "5b66 76e3 4f01 8cc7 5354 591c 33+36 33+37 33+38 33+39 34+30 34+31 34+32 34+33 34+34"⟩,
  ⟨0x32ba, "34+35 34+36 34+37 34+38 34+39 35+30 31+6708 32+6708 33+6708 34+6708 35+6708 36+6708"⟩,
  ⟨0x32c6, "37+6708 38+6708 39+6708 31+30+6708 31+31+6708 31+32+6708 68+67 65+72+67 65+76"⟩,
  ⟨0x32cf, "6c+74+64 30a2 30a4 30a6 30a8 30aa 30ab 30ad 30af 30b1 30b3 30b5 30b7 30b9 30bb 30bd"⟩,
  ⟨0x32df, "30bf 30c1 30c4 30c6 30c8 30ca 30cb 30cc 30cd 30ce 30cf 30d2 30d5 30d8 30db 30de"⟩,
  ⟨0x32ef, "30df 30e0 30e1 30e2 30e4 30e6 30e8 30e9 30ea 30eb 30ec 30ed 30ef 30f0 30f1 30f2"⟩,
  ⟨0x32ff, "4ee4+548c 30a2+30d1+30fc+30c8 30a2+30eb+30d5+30a1 30a2+30f3+30da+30a2"⟩,
  ⟨0x3303, "30a2+30fc+30eb 30a4+30cb+30f3+30b0 30a4+30f3+30c1 30a6+30a9+30f3"⟩,
  ⟨0x3307, "30a8+30b9+30af+30fc+30c9 30a8+30fc+30ab+30fc 30aa+30f3+30b9 30aa+30fc+30e0"⟩,
  ⟨0x330b, "30ab+30a4+30ea 30ab+30e9+30c3+30c8 30ab+30ed+30ea+30fc 30ac+30ed+30f3"⟩,
  ⟨0x330f, "30ac+30f3+30de 30ae+30ac 30ae+30cb+30fc 30ad+30e5+30ea+30fc 30ae+30eb+30c0+30fc"⟩,
  ⟨0x3314, "30ad+30ed 30ad+30ed+30b0+30e9+30e0 30ad+30ed+30e1+30fc+30c8+30eb"⟩,
  ⟨0x3317, "30ad+30ed+30ef+30c3+30c8 30b0+30e9+30e0 30b0+30e9+30e0+30c8+30f3"⟩,
  ⟨0x331a, "30af+30eb+30bc+30a4+30ed 30af+30ed+30fc+30cd 30b1+30fc+30b9 30b3+30eb+30ca"⟩,
  ⟨0x331e, "30b3+30fc+30dd 30b5+30a4+30af+30eb 30b5+30f3+30c1+30fc+30e0 30b7+30ea+30f3+30b0"⟩,
  ⟨0x3322, "30bb+30f3+30c1 30bb+30f3+30c8 30c0+30fc+30b9 30c7+30b7 30c9+30eb 30c8+30f3"⟩,
  ⟨0x3328, "30ca+30ce 30ce+30c3+30c8 30cf+30a4+30c4 30d1+30fc+30bb+30f3+30c8 30d1+30fc+30c4"⟩,
  ⟨0x332d, "30d0+30fc+30ec+30eb 30d4+30a2+30b9+30c8+30eb 30d4+30af+30eb 30d4+30b3 30d3+30eb"⟩,
  ⟨0x3332, "30d5+30a1+30e9+30c3+30c9 30d5+30a3+30fc+30c8 30d6+30c3+30b7+30a7+30eb"⟩,
  ⟨0x3335, "30d5+30e9+30f3 30d8+30af+30bf+30fc+30eb 30da+30bd 30da+30cb+30d2 30d8+30eb+30c4"⟩,
  ⟨0x333a, "30da+30f3+30b9 30da+30fc+30b8 30d9+30fc+30bf 30dd+30a4+30f3+30c8 30dc+30eb+30c8"⟩,
  ⟨0x333f, "30db+30f3 30dd+30f3+30c9 30db+30fc+30eb 30db+30fc+30f3 30de+30a4+30af+30ed"⟩,
  ⟨0x3344, "30de+30a4+30eb 30de+30c3+30cf 30de+30eb+30af 30de+30f3+30b7+30e7+30f3"⟩,
  ⟨0x3348, "30df+30af+30ed+30f3 30df+30ea 30df+30ea+30d0+30fc+30eb 30e1+30ac"⟩,
  ⟨0x334c, "30e1+30ac+30c8+30f3 30e1+30fc+30c8+30eb 30e4+30fc+30c9 30e4+30fc+30eb"⟩,
  ⟨0x3350, "30e6+30a2+30f3 30ea+30c3+30c8+30eb 30ea+30e9 30eb+30d4+30fc 30eb+30fc+30d6+30eb"⟩,
  ⟨0x3355, "30ec+30e0 30ec+30f3+30c8+30b2+30f3 30ef+30c3+30c8 30+70b9 31+70b9 32+70b9 33+70b9"⟩,
  ⟨0x335c, "34+70b9 35+70b9 36+70b9 37+70b9 38+70b9 39+70b9 31+30+70b9 31+31+70b9 31+32+70b9"⟩,
  ⟨0x3365, "31+33+70b9 31+34+70b9 31+35+70b9 31+36+70b9 31+37+70b9 31+38+70b9 31+39+70b9"⟩,
  ⟨0x336c, "32+30+70b9 32+31+70b9 32+32+70b9 32+33+70b9 32+34+70b9 68+70+61 64+61 61+75"⟩,
  ⟨0x3374, "62+61+72 6f+76 70+63 64+6d 64+6d+32 64+6d+33 69+75 5e73+6210 662d+548c 5927+6b63"⟩,
  ⟨0x337e, "660e+6cbb 682a+5f0f+4f1a+793e 70+61 6e+61 3bc+61 6d+61 6b+61 6b+62 6d+62 67+62"⟩,
  ⟨0x3388, "63+61+6c 6b+63+61+6c 70+66 6e+66 3bc+66 3bc+67 6d+67 6b+67 68+7a 6b+68+7a 6d+68+7a"⟩,
  ⟨0x3393, "67+68+7a 74+68+7a 3bc+6c 6d+6c 64+6c 6b+6c 66+6d 6e+6d 3bc+6d 6d+6d 63+6d 6b+6d"⟩,
  ⟨0x339f, "6d+6d+32 63+6d+32 6d+32 6b+6d+32 6d+6d+33 63+6d+33 6d+33 6b+6d+33 6d+2215+73"⟩,
  ⟨0x33a8, "6d+2215+73+32 70+61 6b+70+61 6d+70+61 67+70+61 72+61+64 72+61+64+2215+73"⟩,
  ⟨0x33af, "72+61+64+2215+73+32 70+73 6e+73 3bc+73 6d+73 70+76 6e+76 3bc+76 6d+76 6b+76 6d+76"⟩,
  ⟨0x33ba, "70+77 6e+77 3bc+77 6d+77 6b+77 6d+77 6b+3c9 6d+3c9 - 62+71 63+63 63+64"⟩,
  ⟨0x33c6, "63+2215+6b+67 - 64+62 67+79 68+61 68+70 69+6e 6b+6b 6b+6d 6b+74 6c+6d 6c+6e"⟩,
  ⟨0x33d2, "6c+6f+67 6c+78 6d+62 6d+69+6c 6d+6f+6c 70+68 - 70+70+6d 70+72 73+72 73+76 77+62"⟩,
  ⟨0x33de, "76+2215+6d 61+2215+6d 31+65e5 32+65e5 33+65e5 34+65e5 35+65e5 36+65e5 37+65e5"⟩,
  ⟨0x33e7, "38+65e5 39+65e5 31+30+65e5 31+31+65e5 31+32+65e5 31+33+65e5 31+34+65e5 31+35+65e5"⟩,
  ⟨0x33ef, "31+36+65e5 31+37+65e5 31+38+65e5 31+39+65e5 32+30+65e5 32+31+65e5 32+32+65e5"⟩,
  ⟨0x33f6, "32+33+65e5 32+34+65e5 32+35+65e5 32+36+65e5 32+37+65e5 32+38+65e5 32+39+65e5"⟩,
  ⟨0x33fd, "33+30+65e5 33+31+65e5 67+61+6c"⟩,
  ⟨0xa69c, "44a 44c"⟩,
  ⟨0xa770, "a76f"⟩,
  ⟨0xa7f1, "73 63 66 71"⟩,
  ⟨0xa7f8, "127 153"⟩,
  ⟨0xab5c, "a727 ab37 26b ab52"⟩,
  ⟨0xab69, "28d"⟩,
  ⟨0xab70, "13a0 13a1 13a2 13a3 13a4 13a5 13a6 13a7 13a8 13a9 13aa 13ab 13ac 13ad 13ae 13af"⟩,
  ⟨0xab80, "13b0 13b1 13b2 13b3 13b4 13b5 13b6 13b7 13b8 13b9 13ba 13bb 13bc 13bd 13be 13bf"⟩,
  ⟨0xab90, "13c0 13c1 13c2 13c3 13c4 13c5 13c6 13c7 13c8 13c9 13ca 13cb 13cc 13cd 13ce 13cf"⟩,
  ⟨0xaba0, "13d0 13d1 13d2 13d3 13d4 13d5 13d6 13d7 13d8 13d9 13da 13db 13dc 13dd 13de 13df"⟩,
  ⟨0xabb0, "13e0 13e1 13e2 13e3 13e4 13e5 13e6 13e7 13e8 13e9 13ea 13eb 13ec 13ed 13ee 13ef"⟩,
  ⟨0xf900, "8c48 66f4 8eca 8cc8 6ed1 4e32 53e5 9f9c 9f9c 5951 91d1 5587 5948 61f6 7669 7f85"⟩,
  ⟨0xf910, "863f 87ba 88f8 908f 6a02 6d1b 70d9 73de 843d 916a 99f1 4e82 5375 6b04 721b 862d"⟩,
  ⟨0xf920, "9e1e 5d50 6feb 85cd 8964 62c9 81d8 881f 5eca 6717 6d6a 72fc 90ce 4f86 51b7 52de"⟩,
  ⟨0xf930, "64c4 6ad3 7210 76e7 8001 8606 865c 8def 9732 9b6f 9dfa 788c 797f 7da0 83c9 9304"⟩,
  ⟨0xf940, "9e7f 8ad6 58df 5f04 7c60 807e 7262 78ca 8cc2 96f7 58d8 5c62 6a13 6dda 6f0f 7d2f"⟩,
  ⟨0xf950, "7e37 964b 52d2 808b 51dc 51cc 7a1c 7dbe 83f1 9675 8b80 62cf 6a02 8afe 4e39 5be7"⟩,
  ⟨0xf960, "6012 7387 7570 5317 78fb 4fbf 5fa9 4e0d 6ccc 6578 7d22 53c3 585e 7701 8449 8aaa"⟩,
  ⟨0xf970, "6bba 8fb0 6c88 62fe 82e5 63a0 7565 4eae 5169 51c9 6881 7ce7 826f 8ad2 91cf 52f5"⟩,
  ⟨0xf980, "5442 5973 5eec 65c5 6ffe 792a 95ad 9a6a 9e97 9ece 529b 66c6 6b77 8f62 5e74 6190"⟩,
  ⟨0xf990, "6200 649a 6f23 7149 7489 79ca 7df4 806f 8f26 84ee 9023 934a 5217 52a3 54bd 70c8"⟩,
  ⟨0xf9a0, "88c2 8aaa 5ec9 5ff5 637b 6bae 7c3e 7375 4ee4 56f9 5be7 5dba 601c 73b2 7469 7f9a"⟩,
  ⟨0xf9b0, "8046 9234 96f6 9748 9818 4f8b 79ae 91b4 96b8 60e1 4e86 50da 5bee 5c3f 6599 6a02"⟩,
  ⟨0xf9c0, "71ce 7642 84fc 907c 9f8d 6688 962e 5289 677b 67f3 6d41 6e9c 7409 7559 786b 7d10"⟩,
  ⟨0xf9d0, "985e 516d 622e 9678 502b 5d19 6dea 8f2a 5f8b 6144 6817 7387 9686 5229 540f 5c65"⟩,
  ⟨0xf9e0, "6613 674e 68a8 6ce5 7406 75e2 7f79 88cf 88e1 91cc 96e2 533f 6eba 541d 71d0 7498"⟩,
  ⟨0xf9f0, "85fa 96a3 9c57 9e9f 6797 6dcb 81e8 7acb 7b20 7c92 72c0 7099 8b58 4ec0 8336 523a"⟩,
  ⟨0xfa00, "5207 5ea6 62d3 7cd6 5b85 6d1e 66b4 8f3b 884c 964d 898b 5ed3 5140 55c0 - - 585a"⟩,
  ⟨0xfa12, "6674 - - 51de 732a 76ca 793c 795e 7965 798f 9756 7cbe 7fbd - 8612 - 8af8 - - 9038"⟩,
  ⟨0xfa26, "90fd"⟩,
  ⟨0xfa2a, "98ef 98fc 9928 9db4 90de 96b7 4fae 50e7 514d 52c9 52e4 5351 559d 5606 5668 5840"⟩,
  ⟨0xfa3a, "58a8 5c64 5c6e 6094 6168 618e 61f2 654f 65e2 6691 6885 6d77 6e1a 6f22 716e 722b"⟩,
  ⟨0xfa4a, "7422 7891 793e 7949 7948 7950 7956 795d 798d 798e 7a40 7a81 7bc0 7df4 7e09 7e41"⟩,
  ⟨0xfa5a, "7f72 8005 81ed 8279 8279 8457 8910 8996 8b01 8b39 8cd3 8d08 8fb6 9038 96e3 97ff"⟩,
  ⟨0xfa6a, "983b 6075 242ee 8218 - - 4e26 51b5 5168 4f80 5145 5180 52c7 52fa 559d 5555 5599"⟩,
  ⟨0xfa7b, "55e2 585a 58b3 5944 5954 5a62 5b28 5ed2 5ed9 5f69 5fad 60d8 614e 6108 618e 6160"⟩,
  ⟨0xfa8b, "61f2 6234 63c4 641c 6452 6556 6674 6717 671b 6756 6b79 6bba 6d41 6edb 6ecb 6f22"⟩,
  ⟨0xfa9b, "701e 716e 77a7 7235 72af 732a 7471 7506 753b 761d 761f 76ca 76db 76f4 774a 7740"⟩,
  ⟨0xfaab, "78cc 7ab1 7bc0 7c7b 7d5b 7df4 7f3e 8005 8352 83ef 8779 8941 8986 8996 8abf 8af8"⟩,
  ⟨0xfabb, "8acb 8b01 8afe 8aed 8b39 8b8a 8d08 8f38 9072 9199 9276 967c 96e3 9756 97db 97ff"⟩,
  ⟨0xfacb, "980b 983b 9b12 9f9c 2284a 22844 233d5 3b9d 4018 4039 25249 25cd0 27ed3 9f43 9f8e"⟩,
  ⟨0xfb00, "66+66 66+69 66+6c 66+66+69 66+66+6c 73+74 73+74"⟩,
  ⟨0xfb13, "574+576 574+565 574+56b 57e+576 574+56d"⟩,
  ⟨0xfb1d, "5d9+5b4 - 5f2+5b7 5e2 5d0 5d3 5d4 5db 5dc 5dd 5e8 5ea 2b 5e9+5c1 5e9+5c2"⟩,
  ⟨0xfb2c, "5e9+5bc+5c1 5e9+5bc+5c2 5d0+5b7 5d0+5b8 5d0+5bc 5d1+5bc 5d2+5bc 5d3+5bc 5d4+5bc"⟩,
  ⟨0xfb35, "5d5+5bc 5d6+5bc - 5d8+5bc 5d9+5bc 5da+5bc 5db+5bc 5dc+5bc - 5de+5bc - 5e0+5bc"⟩,
  ⟨0xfb41, "5e1+5bc - 5e3+5bc 5e4+5bc - 5e6+5bc 5e7+5bc 5e8+5bc 5e9+5bc 5ea+5bc 5d5+5b9 5d1+5bf"⟩,
  ⟨0xfb4d, "5db+5bf 5e4+5bf 5d0+5dc 671 671 67b 67b 67b 67b 67e 67e 67e 67e 680 680 680 680 67a"⟩,
  ⟨0xfb5f, "67a 67a 67a 67f 67f 67f 67f 679 679 679 679 6a4 6a4 6a4 6a4 6a6 6a6 6a6 6a6 684 684"⟩,
  ⟨0xfb74, "684 684 683 683 683 683 686 686 686 686 687 687 687 687 68d 68d 68c 68c 68e 68e 688"⟩,
  ⟨0xfb89, "688 698 698 691 691 6a9 6a9 6a9 6a9 6af 6af 6af 6af 6b3 6b3 6b3 6b3 6b1 6b1 6b1 6b1"⟩,
  ⟨0xfb9e, "6ba 6ba 6bb 6bb 6bb 6bb 6c0 6c0 6c1 6c1 6c1 6c1 6be 6be 6be 6be 6d2 6d2 6d3 6d3"⟩,
  ⟨0xfbd3, "6ad 6ad 6ad 6ad 6c7 6c7 6c6 6c6 6c8 6c8 6c7+674 6cb 6cb 6c5 6c5 6c9 6c9 6d0 6d0 6d0"⟩,
  ⟨0xfbe7, "6d0 649 649 626+627 626+627 626+6d5 626+6d5 626+648 626+648 626+6c7 626+6c7 626+6c6"⟩,
  ⟨0xfbf3, "626+6c6 626+6c8 626+6c8 626+6d0 626+6d0 626+6d0 626+649 626+649 626+649 6cc 6cc 6cc"⟩,
  ⟨0xfbff, "6cc 626+62c 626+62d 626+645 626+649 626+64a 628+62c 628+62d 628+62e 628+645 628+649"⟩,
  ⟨0xfc0a, "628+64a 62a+62c 62a+62d 62a+62e 62a+645 62a+649 62a+64a 62b+62c 62b+645 62b+649"⟩,
  ⟨0xfc14, "62b+64a 62c+62d 62c+645 62d+62c 62d+645 62e+62c 62e+62d 62e+645 633+62c 633+62d"⟩,
  ⟨0xfc1e, "633+62e 633+645 635+62d 635+645 636+62c 636+62d 636+62e 636+645 637+62d 637+645"⟩,
  ⟨0xfc28, "638+645 639+62c 639+645 63a+62c 63a+645 641+62c 641+62d 641+62e 641+645 641+649"⟩,
  ⟨0xfc32, "641+64a 642+62d 642+645 642+649 642+64a 643+627 643+62c 643+62d 643+62e 643+644"⟩,
  ⟨0xfc3c, "643+645 643+649 643+64a 644+62c 644+62d 644+62e 644+645 644+649 644+64a 645+62c"⟩,
  ⟨0xfc46, "645+62d 645+62e 645+645 645+649 645+64a 646+62c 646+62d 646+62e 646+645 646+649"⟩,
  ⟨0xfc50, "646+64a 647+62c 647+645 647+649 647+64a 64a+62c 64a+62d 64a+62e 64a+645 64a+649"⟩,
  ⟨0xfc5a, "64a+64a 630+670 631+670 649+670"⟩,
  ⟨0xfc64, "626+631 626+632 626+645 626+646 626+649 626+64a 628+631 628+632 628+645 628+646"⟩,
  ⟨0xfc6e, "628+649 628+64a 62a+631 62a+632 62a+645 62a+646 62a+649 62a+64a 62b+631 62b+632"⟩,
  ⟨0xfc78, "62b+645 62b+646 62b+649 62b+64a 641+649 641+64a 642+649 642+64a 643+627 643+644"⟩,
  ⟨0xfc82, "643+645 643+649 643+64a 644+645 644+649 644+64a 645+627 645+645 646+631 646+632"⟩,
  ⟨0xfc8c, "646+645 646+646 646+649 646+64a 649+670 64a+631 64a+632 64a+645 64a+646 64a+649"⟩,
  ⟨0xfc96, "64a+64a 626+62c 626+62d 626+62e 626+645 626+647 628+62c 628+62d 628+62e 628+645"⟩,
  ⟨0xfca0, "628+647 62a+62c 62a+62d 62a+62e 62a+645 62a+647 62b+645 62c+62d 62c+645 62d+62c"⟩,
  ⟨0xfcaa, "62d+645 62e+62c 62e+645 633+62c 633+62d 633+62e 633+645 635+62d 635+62e 635+645"⟩,
  ⟨0xfcb4, "636+62c 636+62d 636+62e 636+645 637+62d 638+645 639+62c 639+645 63a+62c 63a+645"⟩,
  ⟨0xfcbe, "641+62c 641+62d 641+62e 641+645 642+62d 642+645 643+62c 643+62d 643+62e 643+644"⟩,
  ⟨0xfcc8, "643+645 644+62c 644+62d 644+62e 644+645 644+647 645+62c 645+62d 645+62e 645+645"⟩,
  ⟨0xfcd2, "646+62c 646+62d 646+62e 646+645 646+647 647+62c 647+645 647+670 64a+62c 64a+62d"⟩,
  ⟨0xfcdc, "64a+62e 64a+645 64a+647 626+645 626+647 628+645 628+647 62a+645 62a+647 62b+645"⟩,
  ⟨0xfce6, "62b+647 633+645 633+647 634+645 634+647 643+644 643+645 644+645 646+645 646+647"⟩,
  ⟨0xfcf0, "64a+645 64a+647 640+64e+651 640+64f+651 640+650+651 637+649 637+64a 639+649 639+64a"⟩,
  ⟨0xfcf9, "63a+649 63a+64a 633+649 633+64a 634+649 634+64a 62d+649 62d+64a 62c+649 62c+64a"⟩,
  ⟨0xfd03, "62e+649 62e+64a 635+649 635+64a 636+649 636+64a 634+62c 634+62d 634+62e 634+645"⟩,
  ⟨0xfd0d, "634+631 633+631 635+631 636+631 637+649 637+64a 639+649 639+64a 63a+649 63a+64a"⟩,
  ⟨0xfd17, "633+649 633+64a 634+649 634+64a 62d+649 62d+64a 62c+649 62c+64a 62e+649 62e+64a"⟩,
  ⟨0xfd21, "635+649 635+64a 636+649 636+64a 634+62c 634+62d 634+62e 634+645 634+631 633+631"⟩,
  ⟨0xfd2b, "635+631 636+631 634+62c 634+62d 634+62e 634+645 633+647 634+647 637+645 633+62c"⟩,
  ⟨0xfd35, "633+62d 633+62e 634+62c 634+62d 634+62e 637+645 638+645 627+64b 627+64b"⟩,
  ⟨0xfd50, "62a+62c+645 62a+62d+62c 62a+62d+62c 62a+62d+645 62a+62e+645 62a+645+62c 62a+645+62d"⟩,
  ⟨0xfd57, "62a+645+62e 62c+645+62d 62c+645+62d 62d+645+64a 62d+645+649 633+62d+62c 633+62c+62d"⟩,
  ⟨0xfd5e, "633+62c+649 633+645+62d 633+645+62d 633+645+62c 633+645+645 633+645+645 635+62d+62d"⟩,
  ⟨0xfd65, "635+62d+62d 635+645+645 634+62d+645 634+62d+645 634+62c+64a 634+645+62e 634+645+62e"⟩,
  ⟨0xfd6c, "634+645+645 634+645+645 636+62d+649 636+62e+645 636+62e+645 637+645+62d 637+645+62d"⟩,
  ⟨0xfd73, "637+645+645 637+645+64a 639+62c+645 639+645+645 639+645+645 639+645+649 63a+645+645"⟩,
  ⟨0xfd7a, "63a+645+64a 63a+645+649 641+62e+645 641+62e+645 642+645+62d 642+645+645 644+62d+645"⟩,
  ⟨0xfd81, "644+62d+64a 644+62d+649 644+62c+62c 644+62c+62c 644+62e+645 644+62e+645 644+645+62d"⟩,
  ⟨0xfd88, "644+645+62d 645+62d+62c 645+62d+645 645+62d+64a 645+62c+62d 645+62c+645 645+62e+62c"⟩,
  ⟨0xfd8f, "645+62e+645 - - 645+62c+62e 647+645+62c 647+645+645 646+62d+645 646+62d+649"⟩,
  ⟨0xfd97, "646+62c+645 646+62c+645 646+62c+649 646+645+64a 646+645+649 64a+645+645 64a+645+645"⟩,
  ⟨0xfd9e, "628+62e+64a 62a+62c+64a 62a+62c+649 62a+62e+64a 62a+62e+649 62a+645+64a 62a+645+649"⟩,
  ⟨0xfda5, "62c+645+64a 62c+62d+649 62c+645+649 633+62e+649 635+62d+64a 634+62d+64a 636+62d+64a"⟩,
  ⟨0xfdac, "644+62c+64a 644+645+64a 64a+62d+64a 64a+62c+64a 64a+645+64a 645+645+64a 642+645+64a"⟩,
  ⟨0xfdb3, "646+62d+64a 642+645+62d 644+62d+645 639+645+64a 643+645+64a 646+62c+62d 645+62e+64a"⟩,
  ⟨0xfdba, "644+62c+645 643+645+645 644+62c+645 646+62c+62d 62c+62d+64a 62d+62c+64a 645+62c+64a"⟩,
  ⟨0xfdc1, "641+645+64a 628+62d+64a 643+645+645 639+62c+645 635+645+645 633+62e+64a 646+62c+64a"⟩,
  ⟨0xfdf0, "635+644+6d2 642+644+6d2 627+644+644+647 627+643+628+631 645+62d+645+62f"⟩,
  ⟨0xfdf5, "635+644+639+645 631+633+648+644 639+644+64a+647 648+633+644+645 635+644+649"⟩,
  ⟨0xfdfc, "631+6cc+627+644"⟩,
  ⟨0xfe10, "2c 3001 - 3a 3b 21 3f 3016 3017"⟩,
  ⟨0xfe31, "2014 2013 5f 5f 28 29 7b 7d 3014 3015 3010 3011 300a 300b 3008 3009 300c 300d 300e"⟩,
  ⟨0xfe44, "300f - - 5b 5d"⟩,
  ⟨0xfe4d, "5f 5f 5f 2c 3001 - - 3b 3a 3f 21 2014 28 29 7b 7d 3014 3015 23 26 2a 2b 2d 3c 3e 3d"⟩,
  ⟨0xfe68, "5c 24 25 40"⟩,
  ⟨0xfe71, "640+64b"⟩,
  ⟨0xfe77, "640+64e - 640+64f - 640+650 - 640+651 - 640+652 621 622 622 623 623 624 624 625 625"⟩,
  ⟨0xfe89, "626 626 626 626 627 627 628 628 628 628 629 629 62a 62a 62a 62a 62b 62b 62b 62b 62c"⟩,
  ⟨0xfe9e, "62c 62c 62c 62d 62d 62d 62d 62e 62e 62e 62e 62f 62f 630 630 631 631 632 632 633 633"⟩,
  ⟨0xfeb3, "633 633 634 634 634 634 635 635 635 635 636 636 636 636 637 637 637 637 638 638 638"⟩,
  ⟨0xfec8, "638 639 639 639 639 63a 63a 63a 63a 641 641 641 641 642 642 642 642 643 643 643 643"⟩,
  ⟨0xfedd, "644 644 644 644 645 645 645 645 646 646 646 646 647 647 647 647 648 648 649 649 64a"⟩,
  ⟨0xfef2, "64a 64a 64a 644+622 644+622 644+623 644+623 644+625 644+625 644+627 644+627"⟩,
  ⟨0xff01, "21 22 23 24 25 26 27 28 29 2a 2b 2c 2d 2e 2f 30 31 32 33 34 35 36 37 38 39 3a 3b 3c"⟩,
  ⟨0xff1d, "3d 3e 3f 40 61 62 63 64 65 66 67 68 69 6a 6b 6c 6d 6e 6f 70 71 72 73 74 75 76 77 78"⟩,
  ⟨0xff39, "79 7a 5b 5c 5d 5e 5f 60 61 62 63 64 65 66 67 68 69 6a 6b 6c 6d 6e 6f 70 71 72 73 74"⟩,
  ⟨0xff55, "75 76 77 78 79 7a 7b 7c 7d 7e 2985 2986 2e 300c 300d 3001 30fb 30f2 30a1 30a3 30a5"⟩,
  ⟨0xff6a, "30a7 30a9 30e3 30e5 30e7 30c3 30fc 30a2 30a4 30a6 30a8 30aa 30ab 30ad 30af 30b1"⟩,
  ⟨0xff7a, "30b3 30b5 30b7 30b9 30bb 30bd 30bf 30c1 30c4 30c6 30c8 30ca 30cb 30cc 30cd 30ce"⟩,
  ⟨0xff8a, "30cf 30d2 30d5 30d8 30db 30de 30df 30e0 30e1 30e2 30e4 30e6 30e8 30e9 30ea 30eb"⟩,
  ⟨0xff9a, "30ec 30ed 30ef 30f3 3099 309a - 1100 1101 11aa 1102 11ac 11ad 1103 1104 1105 11b0"⟩,
  ⟨0xffab, "11b1 11b2 11b3 11b4 11b5 111a 1106 1107 1108 1121 1109 110a 110b 110c 110d 110e"⟩,
  ⟨0xffbb, "110f 1110 1111 1112"⟩,
  ⟨0xffc2, "1161 1162 1163 1164 1165 1166 - - 1167 1168 1169 116a 116b 116c - - 116d 116e 116f"⟩,
  ⟨0xffd5, "1170 1171 1172 - - 1173 1174 1175"⟩,
  ⟨0xffe0, "a2 a3 ac - a6 a5 20a9 - 2502 2190 2191 2192 2193 25a0 25cb"⟩,
  ⟨0x10781, "2d0 2d1 e6 299 253 - 2a3 ab66 2a5 2a4 256 257 1d91 258 25e 2a9 264 262 260 29b 127"⟩,
  ⟨0x10796, "29c 267 284 2aa 2ab 26c 1df04 a78e 26e 1df05 28e 1df06 f8 276 277 71 27a 1df08 27d"⟩,
  ⟨0x107a9, "27e 280 2a8 2a6 ab67 2a7 288 2c71 - 28f 2a1 2a2 298 1c0 1c1 1c2 1df0a 1df1e"⟩,
  ⟨0x1ccd6, "61 62 63 64 65 66 67 68 69 6a 6b 6c 6d 6e 6f 70 71 72 73 74 75 76 77 78 79 7a 30"⟩,
  ⟨0x1ccf1, "31 32 33 34 35 36 37 38 39"⟩,
  ⟨0x1d15e, "1d157+1d165 1d158+1d165 1d158+1d165+1d16e 1d158+1d165+1d16f 1d158+1d165+1d170"⟩,
  ⟨0x1d163, "1d158+1d165+1d171 1d158+1d165+1d172"⟩,
  ⟨0x1d1bb, "1d1b9+1d165 1d1ba+1d165 1d1b9+1d165+1d16e 1d1ba+1d165+1d16e 1d1b9+1d165+1d16f"⟩,
  ⟨0x1d1c0, "1d1ba+1d165+1d16f"⟩,
  ⟨0x1d400, "61 62 63 64 65 66 67 68 69 6a 6b 6c 6d 6e 6f 70 71 72 73 74 75 76 77 78 79 7a 61"⟩,
  ⟨0x1d41b, "62 63 64 65 66 67 68 69 6a 6b 6c 6d 6e 6f 70 71 72 73 74 75 76 77 78 79 7a 61 62"⟩,
  ⟨0x1d436, "63 64 65 66 67 68 69 6a 6b 6c 6d 6e 6f 70 71 72 73 74 75 76 77 78 79 7a 61 62 63"⟩,
  ⟨0x1d451, "64 65 66 67 - 69 6a 6b 6c 6d 6e 6f 70 71 72 73 74 75 76 77 78 79 7a 61 62 63 64 65"⟩,
  ⟨0x1d46d, "66 67 68 69 6a 6b 6c 6d 6e 6f 70 71 72 73 74 75 76 77 78 79 7a 61 62 63 64 65 66"⟩,
  ⟨0x1d488, "67 68 69 6a 6b 6c 6d 6e 6f 70 71 72 73 74 75 76 77 78 79 7a 61 - 63 64 - - 67"⟩,
  ⟨0x1d4a5, "6a 6b - - 6e 6f 70 71 - 73 74 75 76 77 78 79 7a 61 62 63 64 - 66 - 68 69 6a 6b 6c"⟩,
  ⟨0x1d4c2, "6d 6e - 70 71 72 73 74 75 76 77 78 79 7a 61 62 63 64 65 66 67 68 69 6a 6b 6c 6d 6e"⟩,
  ⟨0x1d4de, "6f 70 71 72 73 74 75 76 77 78 79 7a 61 62 63 64 65 66 67 68 69 6a 6b 6c 6d 6e 6f"⟩,
  ⟨0x1d4f9, "70 71 72 73 74 75 76 77 78 79 7a 61 62 - 64 65 66 67 - - 6a 6b 6c 6d 6e 6f 70 71"⟩,
  ⟨0x1d516, "73 74 75 76 77 78 79 - 61 62 63 64 65 66 67 68 69 6a 6b 6c 6d 6e 6f 70 71 72 73 74"⟩,
  ⟨0x1d532, "75 76 77 78 79 7a 61 62 - 64 65 66 67 - 69 6a 6b 6c 6d - 6f"⟩,
  ⟨0x1d54a, "73 74 75 76 77 78 79 - 61 62 63 64 65 66 67 68 69 6a 6b 6c 6d 6e 6f 70 71 72 73 74"⟩,
  ⟨0x1d566, "75 76 77 78 79 7a 61 62 63 64 65 66 67 68 69 6a 6b 6c 6d 6e 6f 70 71 72 73 74 75"⟩,
  ⟨0x1d581, "76 77 78 79 7a 61 62 63 64 65 66 67 68 69 6a 6b 6c 6d 6e 6f 70 71 72 73 74 75 76"⟩,
  ⟨0x1d59c, "77 78 79 7a 61 62 63 64 65 66 67 68 69 6a 6b 6c 6d 6e 6f 70 71 72 73 74 75 76 77"⟩,
  ⟨0x1d5b7, "78 79 7a 61 62 63 64 65 66 67 68 69 6a 6b 6c 6d 6e 6f 70 71 72 73 74 75 76 77 78"⟩,
  ⟨0x1d5d2, "79 7a 61 62 63 64 65 66 67 68 69 6a 6b 6c 6d 6e 6f 70 71 72 73 74 75 76 77 78 79"⟩,
  ⟨0x1d5ed, "7a 61 62 63 64 65 66 67 68 69 6a 6b 6c 6d 6e 6f 70 71 72 73 74 75 76 77 78 79 7a"⟩,
  ⟨0x1d608, "61 62 63 64 65 66 67 68 69 6a 6b 6c 6d 6e 6f 70 71 72 73 74 75 76 77 78 79 7a 61"⟩,
  ⟨0x1d623, "62 63 64 65 66 67 68 69 6a 6b 6c 6d 6e 6f 70 71 72 73 74 75 76 77 78 79 7a 61 62"⟩,
  ⟨0x1d63e, "63 64 65 66 67 68 69 6a 6b 6c 6d 6e 6f 70 71 72 73 74 75 76 77 78 79 7a 61 62 63"⟩,
  ⟨0x1d659, "64 65 66 67 68 69 6a 6b 6c 6d 6e 6f 70 71 72 73 74 75 76 77 78 79 7a 61 62 63 64"⟩,
  ⟨0x1d674, "65 66 67 68 69 6a 6b 6c 6d 6e 6f 70 71 72 73 74 75 76 77 78 79 7a 61 62 63 64 65"⟩,
  ⟨0x1d68f, "66 67 68 69 6a 6b 6c 6d 6e 6f 70 71 72 73 74 75 76 77 78 79 7a 131 237 - - 3b1 3b2"⟩,
  ⟨0x1d6aa, "3b3 3b4 3b5 3b6 3b7 3b8 3b9 3ba 3bb 3bc 3bd 3be 3bf 3c0 3c1 3b8 3c3 3c4 3c5 3c6"⟩,
  ⟨0x1d6be, "3c7 3c8 3c9 2207 3b1 3b2 3b3 3b4 3b5 3b6 3b7 3b8 3b9 3ba 3bb 3bc 3bd 3be 3bf 3c0"⟩,
  ⟨0x1d6d2, "3c1 3c3 3c3 3c4 3c5 3c6 3c7 3c8 3c9 2202 3b5 3b8 3ba 3c6 3c1 3c0 3b1 3b2 3b3 3b4"⟩,
  ⟨0x1d6e6, "3b5 3b6 3b7 3b8 3b9 3ba 3bb 3bc 3bd 3be 3bf 3c0 3c1 3b8 3c3 3c4 3c5 3c6 3c7 3c8"⟩,
  ⟨0x1d6fa, "3c9 2207 3b1 3b2 3b3 3b4 3b5 3b6 3b7 3b8 3b9 3ba 3bb 3bc 3bd 3be 3bf 3c0 3c1 3c3"⟩,
  ⟨0x1d70e, "3c3 3c4 3c5 3c6 3c7 3c8 3c9 2202 3b5 3b8 3ba 3c6 3c1 3c0 3b1 3b2 3b3 3b4 3b5 3b6"⟩,
  ⟨0x1d722, "3b7 3b8 3b9 3ba 3bb 3bc 3bd 3be 3bf 3c0 3c1 3b8 3c3 3c4 3c5 3c6 3c7 3c8 3c9 2207"⟩,
  ⟨0x1d736, "3b1 3b2 3b3 3b4 3b5 3b6 3b7 3b8 3b9 3ba 3bb 3bc 3bd 3be 3bf 3c0 3c1 3c3 3c3 3c4"⟩,
  ⟨0x1d74a, "3c5 3c6 3c7 3c8 3c9 2202 3b5 3b8 3ba 3c6 3c1 3c0 3b1 3b2 3b3 3b4 3b5 3b6 3b7 3b8"⟩,
  ⟨0x1d75e, "3b9 3ba 3bb 3bc 3bd 3be 3bf 3c0 3c1 3b8 3c3 3c4 3c5 3c6 3c7 3c8 3c9 2207 3b1 3b2"⟩,
  ⟨0x1d772, "3b3 3b4 3b5 3b6 3b7 3b8 3b9 3ba 3bb 3bc 3bd 3be 3bf 3c0 3c1 3c3 3c3 3c4 3c5 3c6"⟩,
  ⟨0x1d786, "3c7 3c8 3c9 2202 3b5 3b8 3ba 3c6 3c1 3c0 3b1 3b2 3b3 3b4 3b5 3b6 3b7 3b8 3b9 3ba"⟩,
  ⟨0x1d79a, "3bb 3bc 3bd 3be 3bf 3c0 3c1 3b8 3c3 3c4 3c5 3c6 3c7 3c8 3c9 2207 3b1 3b2 3b3 3b4"⟩,
  ⟨0x1d7ae, "3b5 3b6 3b7 3b8 3b9 3ba 3bb 3bc 3bd 3be 3bf 3c0 3c1 3c3 3c3 3c4 3c5 3c6 3c7 3c8"⟩,
  ⟨0x1d7c2, "3c9 2202 3b5 3b8 3ba 3c6 3c1 3c0 3dd 3dd - - 30 31 32 33 34 35 36 37 38 39 30 31"⟩,
  ⟨0x1d7da, "32 33 34 35 36 37 38 39 30 31 32 33 34 35 36 37 38 39 30 31 32 33 34 35 36 37 38"⟩,
  ⟨0x1d7f5, "39 30 31 32 33 34 35 36 37 38 39"⟩,
  ⟨0x1e030, "430 431 432 433 434 435 436 437 438 43a 43b 43c 43e 43f 440 441 442 443 444 445"⟩,
  ⟨0x1e044, "446 447 448 44b 44d 44e a689 4d9 456 458 4e9 4af 4cf 430 431 432 433 434 435 436"⟩,
  ⟨0x1e058, "437 438 43a 43b 43e 43f 441 443 444 445 446 447 448 44a 44b 491 456 455 45f 4ab"⟩,
  ⟨0x1e06c, "a651 4b1"⟩,
  ⟨0x1ee00, "627 628 62c 62f - 648 632 62d 637 64a 643 644 645 646 633 639 641 635 642 631 634"⟩,
  ⟨0x1ee15, "62a 62b 62e 630 636 638 63a 66e 6ba 6a1 66f - 628 62c - 647 - - 62d - 64a 643 644"⟩,
  ⟨0x1ee2c, "645 646 633 639 641 635 642 - 634 62a 62b 62e - 636 - 63a"⟩,
  ⟨0x1ee42, "62c"⟩,
  ⟨0x1ee47, "62d - 64a - 644 - 646 633 639 - 635 642 - 634 - - 62e - 636 - 63a - 6ba - 66f"⟩,
  ⟨0x1ee61, "628 62c - 647 - - 62d 637 64a 643 - 645 646 633 639 641 635 642 - 634 62a 62b 62e"⟩,
  ⟨0x1ee79, "636 638 63a 66e - 6a1 - 627 628 62c 62f 647 648 632 62d 637 64a - 644 645 646 633"⟩,
  ⟨0x1ee8f, "639 641 635 642 631 634 62a 62b 62e 630 636 638 63a"⟩,
  ⟨0x1eea1, "628 62c 62f - 648 632 62d 637 64a - 644 645 646 633 639 641 635 642 631 634 62a"⟩,
  ⟨0x1eeb6, "62b 62e 630 636 638 63a"⟩,
  ⟨0x1f101, "30+2c 31+2c 32+2c 33+2c 34+2c 35+2c 36+2c 37+2c 38+2c 39+2c"⟩,
  ⟨0x1f110, "28+61+29 28+62+29 28+63+29 28+64+29 28+65+29 28+66+29 28+67+29 28+68+29 28+69+29"⟩,
  ⟨0x1f119, "28+6a+29 28+6b+29 28+6c+29 28+6d+29 28+6e+29 28+6f+29 28+70+29 28+71+29 28+72+29"⟩,
  ⟨0x1f122, "28+73+29 28+74+29 28+75+29 28+76+29 28+77+29 28+78+29 28+79+29 28+7a+29"⟩,
  ⟨0x1f12a, "3014+73+3015 63 72 63+64 77+7a - 61 62 63 64 65 66 67 68 69 6a 6b 6c 6d 6e 6f 70"⟩,
  ⟨0x1f140, "71 72 73 74 75 76 77 78 79 7a 68+76 6d+76 73+64 73+73 70+70+76 77+63"⟩,
  ⟨0x1f16a, "6d+63 6d+64 6d+72"⟩,
  ⟨0x1f190, "64+6a"⟩,
  ⟨0x1f200, "307b+304b 30b3+30b3 30b5"⟩,
  ⟨0x1f210, "624b 5b57 53cc 30c7 4e8c 591a 89e3 5929 4ea4 6620 7121 6599 524d 5f8c 518d 65b0"⟩,
  ⟨0x1f220, "521d 7d42 751f 8ca9 58f0 5439 6f14 6295 6355 4e00 4e09 904a 5de6 4e2d 53f3 6307"⟩,
  ⟨0x1f230, "8d70 6253 7981 7a7a 5408 6e80 6709 6708 7533 5272 55b6 914d"⟩,
  ⟨0x1f240, "3014+672c+3015 3014+4e09+3015 3014+4e8c+3015 3014+5b89+3015 3014+70b9+3015"⟩,
  ⟨0x1f245, "3014+6253+3015 3014+76d7+3015 3014+52dd+3015 3014+6557+3015"⟩,
  ⟨0x1f250, "5f97 53ef"⟩,
  ⟨0x1fbf0, "30 31 32 33 34 35 36 37 38 39"⟩,
  ⟨0x2f800, "4e3d 4e38 4e41 20122 4f60 4fae 4fbb 5002 507a 5099 50e7 50cf 349e 2063a 514d 5154"⟩,
  ⟨0x2f810, "5164 5177 2051c 34b9 5167 518d 2054b 5197 51a4 4ecc 51ac 51b5 291df 51f5 5203 34df"⟩,
  ⟨0x2f820, "523b 5246 5272 5277 3515 52c7 52c9 52e4 52fa 5305 5306 5317 5349 5351 535a 5373"⟩,
  ⟨0x2f830, "537d 537f 537f 537f 20a2c 7070 53ca 53df 20b63 53eb 53f1 5406 549e 5438 5448 5468"⟩,
  ⟨0x2f840, "54a2 54f6 5510 5553 5563 5584 5584 5599 55ab 55b3 55c2 5716 5606 5717 5651 5674"⟩,
  ⟨0x2f850, "5207 58ee 57ce 57f4 580d 578b 5832 5831 58ac 214e4 58f2 58f7 5906 591a 5922 5962"⟩,
  ⟨0x2f860, "216a8 216ea 59ec 5a1b 5a27 59d8 5a66 36ee 36fc 5b08 5b3e 5b3e 219c8 5bc3 5bd8 5be7"⟩,
  ⟨0x2f870, "5bf3 21b18 5bff 5c06 5f53 5c22 3781 5c60 5c6e 5cc0 5c8d 21de4 5d43 21de6 5d6e 5d6b"⟩,
  ⟨0x2f880, "5d7c 5de1 5de2 382f 5dfd 5e28 5e3d 5e69 3862 22183 387c 5eb0 5eb3 5eb6 5eca 2a392"⟩,
  ⟨0x2f890, "5efe 22331 22331 8201 5f22 5f22 38c7 232b8 261da 5f62 5f6b 38e3 5f9a 5fcd 5fd7"⟩,
  ⟨0x2f89f, "5ff9 6081 393a 391c 6094 226d4 60c7 6148 614c 614e 614c 617a 618e 61b2 61a4 61af"⟩,
  ⟨0x2f8af, "61de 61f2 61f6 6210 621b 625d 62b1 62d4 6350 22b0c 633d 62fc 6368 6383 63e4 22bf1"⟩,
  ⟨0x2f8bf, "6422 63c5 63a9 3a2e 6469 647e 649d 6477 3a6c 654f 656c 2300a 65e3 66f8 6649 3b19"⟩,
  ⟨0x2f8cf, "6691 3b08 3ae4 5192 5195 6700 669c 80ad 43d9 6717 671b 6721 675e 6753 233c3 3b49"⟩,
  ⟨0x2f8df, "67fa 6785 6852 6885 2346d 688e 681f 6914 3b9d 6942 69a3 69ea 6aa8 236a3 6adb 3c18"⟩,
  ⟨0x2f8ef, "6b21 238a7 6b54 3c4e 6b72 6b9f 6bba 6bbb 23a8d 21d0b 23afa 6c4e 23cbc 6cbf 6ccd"⟩,
  ⟨0x2f8fe, "6c67 6d16 6d3e 6d77 6d41 6d69 6d78 6d85 23d1e 6d34 6e2f 6e6e 3d33 6ecb 6ec7 23ed1"⟩,
  ⟨0x2f90e, "6df9 6f6e 23f5e 23f8e 6fc6 7039 701e 701b 3d96 704a 707d 7077 70ad 20525 7145"⟩,
  ⟨0x2f91d, "24263 719c 243ab 7228 7235 7250 24608 7280 7295 24735 24814 737a 738b 3eac 73a5"⟩,
  ⟨0x2f92c, "3eb8 3eb8 7447 745c 7471 7485 74ca 3f1b 7524 24c36 753e 24c92 7570 2219f 7610"⟩,
  ⟨0x2f93b, "24fa1 24fb8 25044 3ffc 4008 76f4 250f3 250f2 25119 25133 771e 771f 771f 774a 4039"⟩,
  ⟨0x2f94a, "778b 4046 4096 2541d 784e 788c 78cc 40e3 25626 7956 2569a 256c5 798f 79eb 412f"⟩,
  ⟨0x2f959, "7a40 7a4a 7a4f 2597c 25aa7 25aa7 7aee 4202 25bab 7bc6 7bc9 4227 25c80 7cd2 42a0"⟩,
  ⟨0x2f968, "7ce8 7ce3 7d00 25f86 7d63 4301 7dc7 7e02 7e45 4334 26228 26247 4359 262d9 7f7a"⟩,
  ⟨0x2f977, "2633e 7f95 7ffa 8005 264da 26523 8060 265a8 8070 2335f 43d5 80b2 8103 440b 813e"⟩,
  ⟨0x2f986, "5ab5 267a7 267b5 23393 2339c 8201 8204 8f9e 446b 8291 828b 829d 52b3 82b1 82b3"⟩,
  ⟨0x2f995, "82bd 82e6 26b3c 82e5 831d 8363 83ad 8323 83bd 83e7 8457 8353 83ca 83cc 83dc 26c36"⟩,
  ⟨0x2f9a5, "26d6b 26cd5 452b 84f1 84f3 8516 273ca 8564 26f2c 455d 4561 26fb1 270d2 456b 8650"⟩,
  ⟨0x2f9b4, "865c 8667 8669 86a9 8688 870e 86e2 8779 8728 876b 8786 45d7 87e1 8801 45f9 8860"⟩,
  ⟨0x2f9c4, "8863 27667 88d7 88de 4635 88fa 34bb 278ae 27966 46be 46c7 8aa0 8aed 8b8a 8c55"⟩,
  ⟨0x2f9d3, "27ca8 8cab 8cc1 8d1b 8d77 27f2f 20804 8dcb 8dbc 8df0 208de 8ed4 8f38 285d2 285ed"⟩,
  ⟨0x2f9e2, "9094 90f1 9111 2872e 911b 9238 92d7 92d8 927c 93f9 9415 28bfa 958b 4995 95b7 28d77"⟩,
  ⟨0x2f9f2, "49e6 96c3 5db2 9723 29145 2921a 4a6e 4a76 97e0 2940a 4ab2 29496 980b 980b 9829"⟩,
  ⟨0x2fa01, "295b6 98e2 4b33 9929 99a7 99c2 99fe 4bce 29b30 9b12 9c40 9cfd 4cce 4ced 9d67 2a0ce"⟩,
  ⟨0x2fa11, "4cf8 2a105 2a20e 2a291 9ebb 4d56 9ef9 9efe 9f05 9f0f 9f16 9f3b 2a600"⟩]

/-- Code points that leave no trace in a name. -/
def ignoredRanges : List (Nat × Nat) := [
  (0xad, 0xad), (0x34f, 0x34f), (0x115f, 0x1160), (0x17b4, 0x17b5), (0x180b, 0x180f),
  (0x200b, 0x200b), (0x2060, 0x2064), (0x206a, 0x206f), (0x3164, 0x3164), (0xfe00, 0xfe0f),
  (0xfeff, 0xfeff), (0xffa0, 0xffa0), (0x1bca0, 0x1bca3), (0x1d173, 0x1d17a), (0xe0100, 0xe01ef)]

/-- Code points outside ASCII that no name may hold, besides unassigned ones; those whose
folded form has a blank are among them. -/
def refusedRanges : List (Nat × Nat) := [
  (0x80, 0xa0), (0xa8, 0xa8), (0xaf, 0xaf), (0xb4, 0xb4), (0xb8, 0xb8), (0x2d8, 0x2dd),
  (0x37a, 0x37a), (0x384, 0x385), (0x600, 0x605), (0x61c, 0x61c), (0x6dd, 0x6dd), (0x70f, 0x70f),
  (0x890, 0x891), (0x8e2, 0x8e2), (0x1680, 0x1680), (0x1fbd, 0x1fbd), (0x1fbf, 0x1fc1),
  (0x1fcd, 0x1fcf), (0x1fdd, 0x1fdf), (0x1fed, 0x1fee), (0x1ffd, 0x1ffe), (0x2000, 0x200a),
  (0x200e, 0x200f), (0x2017, 0x2017), (0x2024, 0x2026), (0x2028, 0x202f), (0x203e, 0x203e),
  (0x205f, 0x205f), (0x2066, 0x2069), (0x2488, 0x249b), (0x2ff0, 0x3000), (0x309b, 0x309c),
  (0x31ef, 0x31ef), (0x33c2, 0x33c2), (0x33c7, 0x33c7), (0x33d8, 0x33d8), (0xe000, 0xf8ff),
  (0xfc5e, 0xfc63), (0xfdfa, 0xfdfb), (0xfe12, 0xfe12), (0xfe19, 0xfe19), (0xfe30, 0xfe30),
  (0xfe49, 0xfe4c), (0xfe52, 0xfe52), (0xfe70, 0xfe70), (0xfe72, 0xfe72), (0xfe74, 0xfe74),
  (0xfe76, 0xfe76), (0xfe78, 0xfe78), (0xfe7a, 0xfe7a), (0xfe7c, 0xfe7c), (0xfe7e, 0xfe7e),
  (0xffe3, 0xffe3), (0xfff9, 0xfffd), (0x110bd, 0x110bd), (0x110cd, 0x110cd), (0x13430, 0x1343f),
  (0x1f100, 0x1f100), (0xe0001, 0xe0001), (0xe0020, 0xe007f), (0xf0000, 0xffffd),
  (0x100000, 0x10fffd)]

end DraftBoard.Url
