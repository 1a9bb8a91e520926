import DraftBoard.Text.Unassigned

/-!
# Letters and numbers

`isAlphanumeric` holds of the characters of all scripts that words and numbers are
written with.
-/

namespace DraftBoard.Text

/-- Code points outside ASCII of characters that are neither letters nor numbers. -/
def wordlessRanges : List (Nat × Nat) := [
  (0x80, 0xa9), (0xab, 0xb1), (0xb4, 0xb4), (0xb6, 0xb8), (0xbb, 0xbb), (0xbf, 0xbf),
  (0xd7, 0xd7), (0xf7, 0xf7), (0x2c2, 0x2c5), (0x2d2, 0x2df), (0x2e5, 0x2eb), (0x2ed, 0x2ed),
  (0x2ef, 0x344), (0x346, 0x362), (0x375, 0x375), (0x37e, 0x37e), (0x384, 0x385), (0x387, 0x387),
  (0x3f6, 0x3f6), (0x482, 0x489), (0x55a, 0x55f), (0x589, 0x58a), (0x58d, 0x58f), (0x591, 0x5af),
  (0x5be, 0x5be), (0x5c0, 0x5c0), (0x5c3, 0x5c3), (0x5c6, 0x5c6), (0x5f3, 0x5f4), (0x600, 0x60f),
  (0x61b, 0x61f), (0x658, 0x658), (0x66a, 0x66d), (0x6d4, 0x6d4), (0x6dd, 0x6e0), (0x6e9, 0x6ec),
  (0x6fd, 0x6fe), (0x700, 0x70d), (0x70f, 0x70f), (0x740, 0x74a), (0x7eb, 0x7f3), (0x7f6, 0x7f9),
  (0x7fd, 0x7ff), (0x818, 0x819), (0x82d, 0x82d), (0x830, 0x83e), (0x859, 0x85b), (0x85e, 0x85e),
  (0x888, 0x888), (0x890, 0x891), (0x898, 0x89f), (0x8ca, 0x8d3), (0x8e0, 0x8e2), (0x8ea, 0x8ef),
  (0x93c, 0x93c), (0x94d, 0x94d), (0x951, 0x954), (0x964, 0x965), (0x970, 0x970), (0x9bc, 0x9bc),
  (0x9cd, 0x9cd), (0x9f2, 0x9f3), (0x9fa, 0x9fb), (0x9fd, 0x9fe), (0xa3c, 0xa3c), (0xa4d, 0xa4d),
  (0xa76, 0xa76), (0xabc, 0xabc), (0xacd, 0xacd), (0xaf0, 0xaf1), (0xafd, 0xaff), (0xb3c, 0xb3c),
  (0xb4d, 0xb4d), (0xb55, 0xb55), (0xb70, 0xb70), (0xbcd, 0xbcd), (0xbf3, 0xbfa), (0xc3c, 0xc3c),
  (0xc4d, 0xc4d), (0xc77, 0xc77), (0xc7f, 0xc7f), (0xc84, 0xc84), (0xcbc, 0xcbc), (0xccd, 0xccd),
  (0xd3b, 0xd3c), (0xd4d, 0xd4d), (0xd4f, 0xd4f), (0xd79, 0xd79), (0xdca, 0xdca), (0xdf4, 0xdf4),
  (0xe3f, 0xe3f), (0xe47, 0xe4c), (0xe4e, 0xe4f), (0xe5a, 0xe5b), (0xeba, 0xeba), (0xec8, 0xecc),
  (0xece, 0xece), (0xf01, 0xf1f), (0xf34, 0xf3f), (0xf84, 0xf87), (0xfbe, 0xfcc), (0xfce, 0xfda),
  (0x1037, 0x1037), (0x1039, 0x103a), (0x104a, 0x104f), (0x109e, 0x109f), (0x10fb, 0x10fb),
  (0x135d, 0x1368), (0x1390, 0x1399), (0x1400, 0x1400), (0x166d, 0x166e), (0x1680, 0x1680),
  (0x169b, 0x169c), (0x16eb, 0x16ed), (0x1714, 0x1715), (0x1734, 0x1736), (0x17b4, 0x17b5),
  (0x17c9, 0x17d6), (0x17d8, 0x17db), (0x17dd, 0x17dd), (0x1800, 0x180f), (0x1939, 0x193b),
  (0x1940, 0x1940), (0x1944, 0x1945), (0x19de, 0x19ff), (0x1a1e, 0x1a1f), (0x1a60, 0x1a60),
  (0x1a75, 0x1a7c), (0x1a7f, 0x1a7f), (0x1aa0, 0x1aa6), (0x1aa8, 0x1aad), (0x1ab0, 0x1abe),
  (0x1ac1, 0x1acb), (0x1acf, 0x1add), (0x1ae0, 0x1aeb), (0x1b34, 0x1b34), (0x1b44, 0x1b44),
  (0x1b4e, 0x1b4f), (0x1b5a, 0x1b7f), (0x1baa, 0x1bab), (0x1be6, 0x1be6), (0x1bf2, 0x1bf3),
  (0x1bfc, 0x1bff), (0x1c37, 0x1c37), (0x1c3b, 0x1c3f), (0x1c7e, 0x1c7f), (0x1cc0, 0x1cc7),
  (0x1cd0, 0x1ce8), (0x1ced, 0x1ced), (0x1cf4, 0x1cf4), (0x1cf7, 0x1cf9), (0x1dc0, 0x1dd2),
  (0x1df5, 0x1dff), (0x1fbd, 0x1fbd), (0x1fbf, 0x1fc1), (0x1fcd, 0x1fcf), (0x1fdd, 0x1fdf),
  (0x1fed, 0x1fef), (0x1ffd, 0x1ffe), (0x2000, 0x2064), (0x2066, 0x206f), (0x207a, 0x207e),
  (0x208a, 0x208e), (0x20a0, 0x20c1), (0x20d0, 0x20f0), (0x2100, 0x2101), (0x2103, 0x2106),
  (0x2108, 0x2109), (0x2114, 0x2114), (0x2116, 0x2118), (0x211e, 0x2123), (0x2125, 0x2125),
  (0x2127, 0x2127), (0x2129, 0x2129), (0x212e, 0x212e), (0x213a, 0x213b), (0x2140, 0x2144),
  (0x214a, 0x214d), (0x214f, 0x214f), (0x218a, 0x218b), (0x2190, 0x2429), (0x2440, 0x244a),
  (0x249c, 0x24b5), (0x2500, 0x2775), (0x2794, 0x2b73), (0x2b76, 0x2bff), (0x2ce5, 0x2cea),
  (0x2cef, 0x2cf1), (0x2cf9, 0x2cfc), (0x2cfe, 0x2cff), (0x2d70, 0x2d70), (0x2d7f, 0x2d7f),
  (0x2e00, 0x2e2e), (0x2e30, 0x2e5d), (0x2e80, 0x2e99), (0x2e9b, 0x2ef3), (0x2f00, 0x2fd5),
  (0x2ff0, 0x3004), (0x3008, 0x3020), (0x302a, 0x3030), (0x3036, 0x3037), (0x303d, 0x303f),
  (0x3099, 0x309c), (0x30a0, 0x30a0), (0x30fb, 0x30fb), (0x3190, 0x3191), (0x3196, 0x319f),
  (0x31c0, 0x31e5), (0x31ef, 0x31ef), (0x3200, 0x321e), (0x322a, 0x3247), (0x3250, 0x3250),
  (0x3260, 0x327f), (0x328a, 0x32b0), (0x32c0, 0x33ff), (0x4dc0, 0x4dff), (0xa490, 0xa4c6),
  (0xa4fe, 0xa4ff), (0xa60d, 0xa60f), (0xa66f, 0xa673), (0xa67c, 0xa67e), (0xa6f0, 0xa6f7),
  (0xa700, 0xa716), (0xa720, 0xa721), (0xa789, 0xa78a), (0xa806, 0xa806), (0xa828, 0xa82c),
  (0xa836, 0xa839), (0xa874, 0xa877), (0xa8c4, 0xa8c4), (0xa8ce, 0xa8cf), (0xa8e0, 0xa8f1),
  (0xa8f8, 0xa8fa), (0xa8fc, 0xa8fc), (0xa92b, 0xa92f), (0xa953, 0xa953), (0xa95f, 0xa95f),
  (0xa9b3, 0xa9b3), (0xa9c0, 0xa9cd), (0xa9de, 0xa9df), (0xaa5c, 0xaa5f), (0xaa77, 0xaa79),
  (0xaabf, 0xaabf), (0xaac1, 0xaac1), (0xaade, 0xaadf), (0xaaf0, 0xaaf1), (0xaaf6, 0xaaf6),
  (0xab5b, 0xab5b), (0xab6a, 0xab6b), (0xabeb, 0xabed), (0xe000, 0xf8ff), (0xfb29, 0xfb29),
  (0xfbb2, 0xfbd2), (0xfd3e, 0xfd4f), (0xfd90, 0xfd91), (0xfdc8, 0xfdcf), (0xfdfc, 0xfe19),
  (0xfe20, 0xfe52), (0xfe54, 0xfe66), (0xfe68, 0xfe6b), (0xfeff, 0xfeff), (0xff01, 0xff0f),
  (0xff1a, 0xff20), (0xff3b, 0xff40), (0xff5b, 0xff65), (0xffe0, 0xffe6), (0xffe8, 0xffee),
  (0xfff9, 0xfffd), (0x10100, 0x10102), (0x10137, 0x1013f), (0x10179, 0x10189),
  (0x1018c, 0x1018e), (0x10190, 0x1019c), (0x101a0, 0x101a0), (0x101d0, 0x101fd),
  (0x102e0, 0x102e0), (0x1039f, 0x1039f), (0x103d0, 0x103d0), (0x1056f, 0x1056f),
  (0x10857, 0x10857), (0x10877, 0x10878), (0x1091f, 0x1091f), (0x1093f, 0x1093f),
  (0x10a38, 0x10a3a), (0x10a3f, 0x10a3f), (0x10a50, 0x10a58), (0x10a7f, 0x10a7f),
  (0x10ac8, 0x10ac8), (0x10ae5, 0x10ae6), (0x10af0, 0x10af6), (0x10b39, 0x10b3f),
  (0x10b99, 0x10b9c), (0x10d6a, 0x10d6e), (0x10d8e, 0x10d8f), (0x10ead, 0x10ead),
  (0x10ed0, 0x10ed8), (0x10efd, 0x10eff), (0x10f46, 0x10f50), (0x10f55, 0x10f59),
  (0x10f82, 0x10f89), (0x11046, 0x1104d), (0x11070, 0x11070), (0x1107f, 0x1107f),
  (0x110b9, 0x110c1), (0x110cd, 0x110cd), (0x11133, 0x11134), (0x11140, 0x11143),
  (0x11173, 0x11175), (0x111c0, 0x111c0), (0x111c5, 0x111cd), (0x111db, 0x111db),
  (0x111dd, 0x111df), (0x11235, 0x11236), (0x11238, 0x1123d), (0x112a9, 0x112a9),
  (0x112e9, 0x112ea), (0x1133b, 0x1133c), (0x1134d, 0x1134d), (0x11366, 0x1136c),
  (0x11370, 0x11374), (0x113ce, 0x113d0), (0x113d2, 0x113d2), (0x113d4, 0x113d5),
  (0x113d7, 0x113d8), (0x113e1, 0x113e2), (0x11442, 0x11442), (0x11446, 0x11446),
  (0x1144b, 0x1144f), (0x1145a, 0x1145b), (0x1145d, 0x1145e), (0x114c2, 0x114c3),
  (0x114c6, 0x114c6), (0x115bf, 0x115d7), (0x1163f, 0x1163f), (0x11641, 0x11643),
  (0x11660, 0x1166c), (0x116b6, 0x116b7), (0x116b9, 0x116b9), (0x1172b, 0x1172b),
  (0x1173c, 0x1173f), (0x11839, 0x1183b), (0x1193d, 0x1193e), (0x11943, 0x11946),
  (0x119e0, 0x119e0), (0x119e2, 0x119e2), (0x11a33, 0x11a34), (0x11a3f, 0x11a47),
  (0x11a98, 0x11a9c), (0x11a9e, 0x11aa2), (0x11b00, 0x11b09), (0x11be1, 0x11be1),
  (0x11c3f, 0x11c3f), (0x11c41, 0x11c45), (0x11c70, 0x11c71), (0x11d42, 0x11d42),
  (0x11d44, 0x11d45), (0x11d97, 0x11d97), (0x11ef7, 0x11ef8), (0x11f41, 0x11f4f),
  (0x11f5a, 0x11f5a), (0x11fd5, 0x11ff1), (0x11fff, 0x11fff), (0x12470, 0x12474),
  (0x12ff1, 0x12ff2), (0x13430, 0x13440), (0x13447, 0x13455), (0x1612f, 0x1612f),
  (0x16a6e, 0x16a6f), (0x16af0, 0x16af5), (0x16b30, 0x16b3f), (0x16b44, 0x16b45),
  (0x16d6d, 0x16d6f), (0x16e97, 0x16e9a), (0x16fe2, 0x16fe2), (0x16fe4, 0x16fe4),
  (0x1bc9c, 0x1bc9d), (0x1bc9f, 0x1bca3), (0x1cc00, 0x1ccef), (0x1ccfa, 0x1ccfc),
  (0x1cd00, 0x1ceb3), (0x1ceba, 0x1ced0), (0x1cee0, 0x1cef0), (0x1cf00, 0x1cf2d),
  (0x1cf30, 0x1cf46), (0x1cf50, 0x1cfc3), (0x1d000, 0x1d0f5), (0x1d100, 0x1d126),
  (0x1d129, 0x1d1ea), (0x1d200, 0x1d245), (0x1d300, 0x1d356), (0x1d6c1, 0x1d6c1),
  (0x1d6db, 0x1d6db), (0x1d6fb, 0x1d6fb), (0x1d715, 0x1d715), (0x1d735, 0x1d735),
  (0x1d74f, 0x1d74f), (0x1d76f, 0x1d76f), (0x1d789, 0x1d789), (0x1d7a9, 0x1d7a9),
  (0x1d7c3, 0x1d7c3), (0x1d800, 0x1da8b), (0x1da9b, 0x1da9f), (0x1daa1, 0x1daaf),
  (0x1e130, 0x1e136), (0x1e14f, 0x1e14f), (0x1e2ae, 0x1e2ae), (0x1e2ec, 0x1e2ef),
  (0x1e2ff, 0x1e2ff), (0x1e4ec, 0x1e4ef), (0x1e5ee, 0x1e5ef), (0x1e5ff, 0x1e5ff),
  (0x1e8d0, 0x1e8d6), (0x1e944, 0x1e946), (0x1e948, 0x1e94a), (0x1e95e, 0x1e95f),
  (0x1ecac, 0x1ecac), (0x1ecb0, 0x1ecb0), (0x1ed2e, 0x1ed2e), (0x1eef0, 0x1eef1),
  (0x1f000, 0x1f02b), (0x1f030, 0x1f093), (0x1f0a0, 0x1f0ae), (0x1f0b1, 0x1f0bf),
  (0x1f0c1, 0x1f0cf), (0x1f0d1, 0x1f0f5), (0x1f10d, 0x1f12f), (0x1f14a, 0x1f14f),
  (0x1f16a, 0x1f16f), (0x1f18a, 0x1f1ad), (0x1f1e6, 0x1f202), (0x1f210, 0x1f23b),
  (0x1f240, 0x1f248), (0x1f250, 0x1f251), (0x1f260, 0x1f265), (0x1f300, 0x1f6d8),
  (0x1f6dc, 0x1f6ec), (0x1f6f0, 0x1f6fc), (0x1f700, 0x1f7d9), (0x1f7e0, 0x1f7eb),
  (0x1f7f0, 0x1f7f0), (0x1f800, 0x1f80b), (0x1f810, 0x1f847), (0x1f850, 0x1f859),
  (0x1f860, 0x1f887), (0x1f890, 0x1f8ad), (0x1f8b0, 0x1f8bb), (0x1f8c0, 0x1f8c1),
  (0x1f8d0, 0x1f8d8), (0x1f900, 0x1fa57), (0x1fa60, 0x1fa6d), (0x1fa70, 0x1fa7c),
  (0x1fa80, 0x1fa8a), (0x1fa8e, 0x1fac6), (0x1fac8, 0x1fac8), (0x1facd, 0x1fadc),
  (0x1fadf, 0x1faea), (0x1faef, 0x1faf8), (0x1fb00, 0x1fb92), (0x1fb94, 0x1fbef),
  (0x1fbfa, 0x1fbfa), (0xe0001, 0xe0001), (0xe0020, 0xe007f), (0xe0100, 0xe01ef),
  (0xf0000, 0xffffd), (0x100000, 0x10fffd)]

/-- Whether a character is a letter or a number. -/
def isAlphanumeric (c : Char) : Bool :=
  if c.toNat < 0x80 then c.isAlphanum
  else !isUnassigned c.toNat && !inRanges wordlessRanges c.toNat

end DraftBoard.Text
