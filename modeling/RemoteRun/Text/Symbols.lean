import RemoteRun.Text.CharSet

/-!
# Numbers, punctuation and symbols

Tables of the characters that are neither letters nor marks nor decimal digits, by their
kind.
-/

namespace RemoteRun
namespace Text

/-- Letters that are numbers. -/
def letterNumbers : CharSet :=
  ⟨[0x16ee, 0x16f1, 0x2160, 0x2183, 0x2185, 0x2189, 0x3007, 0x3008, 0x3021, 0x302a, 0x3038,
    0x303b, 0xa6e6, 0xa6f0, 0x10140, 0x10175, 0x10341, 0x10342, 0x1034a, 0x1034b, 0x103d1,
    0x103d6, 0x12400, 0x1246f]⟩

/-- Numbers of other kinds. -/
def otherNumbers : CharSet :=
  ⟨[0xb2, 0xb4, 0xb9, 0xba, 0xbc, 0xbf, 0x9f4, 0x9fa, 0xb72, 0xb78, 0xbf0, 0xbf3, 0xc78, 0xc7f,
    0xd58, 0xd5f, 0xd70, 0xd79, 0xf2a, 0xf34, 0x1369, 0x137d, 0x17f0, 0x17fa, 0x19da, 0x19db,
    0x2070, 0x2071, 0x2074, 0x207a, 0x2080, 0x208a, 0x2150, 0x2160, 0x2189, 0x218a, 0x2460,
    0x249c, 0x24ea, 0x2500, 0x2776, 0x2794, 0x2cfd, 0x2cfe, 0x3192, 0x3196, 0x3220, 0x322a,
    0x3248, 0x3250, 0x3251, 0x3260, 0x3280, 0x328a, 0x32b1, 0x32c0, 0xa830, 0xa836, 0x10107,
    0x10134, 0x10175, 0x10179, 0x1018a, 0x1018c, 0x102e1, 0x102fc, 0x10320, 0x10324, 0x10858,
    0x10860, 0x10879, 0x10880, 0x108a7, 0x108b0, 0x108fb, 0x10900, 0x10916, 0x1091c, 0x109bc,
    0x109be, 0x109c0, 0x109d0, 0x109d2, 0x10a00, 0x10a40, 0x10a49, 0x10a7d, 0x10a7f, 0x10a9d,
    0x10aa0, 0x10aeb, 0x10af0, 0x10b58, 0x10b60, 0x10b78, 0x10b80, 0x10ba9, 0x10bb0, 0x10cfa,
    0x10d00, 0x10e60, 0x10e7f, 0x10f1d, 0x10f27, 0x10f51, 0x10f55, 0x10fc5, 0x10fcc, 0x11052,
    0x11066, 0x111e1, 0x111f5, 0x1173a, 0x1173c, 0x118ea, 0x118f3, 0x11c5a, 0x11c6d, 0x11fc0,
    0x11fd5, 0x16b5b, 0x16b62, 0x16e80, 0x16e97, 0x1d2c0, 0x1d2d4, 0x1d2e0, 0x1d2f4, 0x1d360,
    0x1d379, 0x1e8c7, 0x1e8d0, 0x1ec71, 0x1ecac, 0x1ecad, 0x1ecb0, 0x1ecb1, 0x1ecb5, 0x1ed01,
    0x1ed2e, 0x1ed2f, 0x1ed3e, 0x1f100, 0x1f10d]⟩

/-- Punctuation that connects. -/
def connectors : CharSet :=
  ⟨[0x5f, 0x60, 0x203f, 0x2041, 0x2054, 0x2055, 0xfe33, 0xfe35, 0xfe4d, 0xfe50, 0xff3f, 0xff40]⟩

/-- Dashes. -/
def dashes : CharSet :=
  ⟨[0x2d, 0x2e, 0x58a, 0x58b, 0x5be, 0x5bf, 0x1400, 0x1401, 0x1806, 0x1807, 0x2010, 0x2016,
    0x2e17, 0x2e18, 0x2e1a, 0x2e1b, 0x2e3a, 0x2e3c, 0x2e40, 0x2e41, 0x2e5d, 0x2e5e, 0x301c,
    0x301d, 0x3030, 0x3031, 0x30a0, 0x30a1, 0xfe31, 0xfe33, 0xfe58, 0xfe59, 0xfe63, 0xfe64,
    0xff0d, 0xff0e, 0x10ead, 0x10eae]⟩

/-- Punctuation that opens. -/
def openings : CharSet :=
  ⟨[0x28, 0x29, 0x5b, 0x5c, 0x7b, 0x7c, 0xf3a, 0xf3b, 0xf3c, 0xf3d, 0x169b, 0x169c, 0x201a,
    0x201b, 0x201e, 0x201f, 0x2045, 0x2046, 0x207d, 0x207e, 0x208d, 0x208e, 0x2308, 0x2309,
    0x230a, 0x230b, 0x2329, 0x232a, 0x2768, 0x2769, 0x276a, 0x276b, 0x276c, 0x276d, 0x276e,
    0x276f, 0x2770, 0x2771, 0x2772, 0x2773, 0x2774, 0x2775, 0x27c5, 0x27c6, 0x27e6, 0x27e7,
    0x27e8, 0x27e9, 0x27ea, 0x27eb, 0x27ec, 0x27ed, 0x27ee, 0x27ef, 0x2983, 0x2984, 0x2985,
    0x2986, 0x2987, 0x2988, 0x2989, 0x298a, 0x298b, 0x298c, 0x298d, 0x298e, 0x298f, 0x2990,
    0x2991, 0x2992, 0x2993, 0x2994, 0x2995, 0x2996, 0x2997, 0x2998, 0x29d8, 0x29d9, 0x29da,
    0x29db, 0x29fc, 0x29fd, 0x2e22, 0x2e23, 0x2e24, 0x2e25, 0x2e26, 0x2e27, 0x2e28, 0x2e29,
    0x2e42, 0x2e43, 0x2e55, 0x2e56, 0x2e57, 0x2e58, 0x2e59, 0x2e5a, 0x2e5b, 0x2e5c, 0x3008,
    0x3009, 0x300a, 0x300b, 0x300c, 0x300d, 0x300e, 0x300f, 0x3010, 0x3011, 0x3014, 0x3015,
    0x3016, 0x3017, 0x3018, 0x3019, 0x301a, 0x301b, 0x301d, 0x301e, 0xfd3f, 0xfd40, 0xfe17,
    0xfe18, 0xfe35, 0xfe36, 0xfe37, 0xfe38, 0xfe39, 0xfe3a, 0xfe3b, 0xfe3c, 0xfe3d, 0xfe3e,
    0xfe3f, 0xfe40, 0xfe41, 0xfe42, 0xfe43, 0xfe44, 0xfe47, 0xfe48, 0xfe59, 0xfe5a, 0xfe5b,
    0xfe5c, 0xfe5d, 0xfe5e, 0xff08, 0xff09, 0xff3b, 0xff3c, 0xff5b, 0xff5c, 0xff5f, 0xff60,
    0xff62, 0xff63]⟩

/-- Punctuation that closes. -/
def closings : CharSet :=
  ⟨[0x29, 0x2a, 0x5d, 0x5e, 0x7d, 0x7e, 0xf3b, 0xf3c, 0xf3d, 0xf3e, 0x169c, 0x169d, 0x2046,
    0x2047, 0x207e, 0x207f, 0x208e, 0x208f, 0x2309, 0x230a, 0x230b, 0x230c, 0x232a, 0x232b,
    0x2769, 0x276a, 0x276b, 0x276c, 0x276d, 0x276e, 0x276f, 0x2770, 0x2771, 0x2772, 0x2773,
    0x2774, 0x2775, 0x2776, 0x27c6, 0x27c7, 0x27e7, 0x27e8, 0x27e9, 0x27ea, 0x27eb, 0x27ec,
    0x27ed, 0x27ee, 0x27ef, 0x27f0, 0x2984, 0x2985, 0x2986, 0x2987, 0x2988, 0x2989, 0x298a,
    0x298b, 0x298c, 0x298d, 0x298e, 0x298f, 0x2990, 0x2991, 0x2992, 0x2993, 0x2994, 0x2995,
    0x2996, 0x2997, 0x2998, 0x2999, 0x29d9, 0x29da, 0x29db, 0x29dc, 0x29fd, 0x29fe, 0x2e23,
    0x2e24, 0x2e25, 0x2e26, 0x2e27, 0x2e28, 0x2e29, 0x2e2a, 0x2e56, 0x2e57, 0x2e58, 0x2e59,
    0x2e5a, 0x2e5b, 0x2e5c, 0x2e5d, 0x3009, 0x300a, 0x300b, 0x300c, 0x300d, 0x300e, 0x300f,
    0x3010, 0x3011, 0x3012, 0x3015, 0x3016, 0x3017, 0x3018, 0x3019, 0x301a, 0x301b, 0x301c,
    0x301e, 0x3020, 0xfd3e, 0xfd3f, 0xfe18, 0xfe19, 0xfe36, 0xfe37, 0xfe38, 0xfe39, 0xfe3a,
    0xfe3b, 0xfe3c, 0xfe3d, 0xfe3e, 0xfe3f, 0xfe40, 0xfe41, 0xfe42, 0xfe43, 0xfe44, 0xfe45,
    0xfe48, 0xfe49, 0xfe5a, 0xfe5b, 0xfe5c, 0xfe5d, 0xfe5e, 0xfe5f, 0xff09, 0xff0a, 0xff3d,
    0xff3e, 0xff5d, 0xff5e, 0xff60, 0xff61, 0xff63, 0xff64]⟩

/-- Quotes that open. -/
def initialQuotes : CharSet :=
  ⟨[0xab, 0xac, 0x2018, 0x2019, 0x201b, 0x201d, 0x201f, 0x2020, 0x2039, 0x203a, 0x2e02, 0x2e03,
    0x2e04, 0x2e05, 0x2e09, 0x2e0a, 0x2e0c, 0x2e0d, 0x2e1c, 0x2e1d, 0x2e20, 0x2e21]⟩

/-- Quotes that close. -/
def finalQuotes : CharSet :=
  ⟨[0xbb, 0xbc, 0x2019, 0x201a, 0x201d, 0x201e, 0x203a, 0x203b, 0x2e03, 0x2e04, 0x2e05, 0x2e06,
    0x2e0a, 0x2e0b, 0x2e0d, 0x2e0e, 0x2e1d, 0x2e1e, 0x2e21, 0x2e22]⟩

/-- Punctuation of other kinds. -/
def otherPunctuation : CharSet :=
  ⟨[0x21, 0x24, 0x25, 0x28, 0x2a, 0x2b, 0x2c, 0x2d, 0x2e, 0x30, 0x3a, 0x3c, 0x3f, 0x41, 0x5c,
    0x5d, 0xa1, 0xa2, 0xa7, 0xa8, 0xb6, 0xb8, 0xbf, 0xc0, 0x37e, 0x37f, 0x387, 0x388, 0x55a,
    0x560, 0x589, 0x58a, 0x5c0, 0x5c1, 0x5c3, 0x5c4, 0x5c6, 0x5c7, 0x5f3, 0x5f5, 0x609, 0x60b,
    0x60c, 0x60e, 0x61b, 0x61c, 0x61d, 0x620, 0x66a, 0x66e, 0x6d4, 0x6d5, 0x700, 0x70e, 0x7f7,
    0x7fa, 0x830, 0x83f, 0x85e, 0x85f, 0x964, 0x966, 0x970, 0x971, 0x9fd, 0x9fe, 0xa76, 0xa77,
    0xaf0, 0xaf1, 0xc77, 0xc78, 0xc84, 0xc85, 0xdf4, 0xdf5, 0xe4f, 0xe50, 0xe5a, 0xe5c, 0xf04,
    0xf13, 0xf14, 0xf15, 0xf85, 0xf86, 0xfd0, 0xfd5, 0xfd9, 0xfdb, 0x104a, 0x1050, 0x10fb, 0x10fc,
    0x1360, 0x1369, 0x166e, 0x166f, 0x16eb, 0x16ee, 0x1735, 0x1737, 0x17d4, 0x17d7, 0x17d8,
    0x17db, 0x1800, 0x1806, 0x1807, 0x180b, 0x1944, 0x1946, 0x1a1e, 0x1a20, 0x1aa0, 0x1aa7,
    0x1aa8, 0x1aae, 0x1b5a, 0x1b61, 0x1b7d, 0x1b7f, 0x1bfc, 0x1c00, 0x1c3b, 0x1c40, 0x1c7e,
    0x1c80, 0x1cc0, 0x1cc8, 0x1cd3, 0x1cd4, 0x2016, 0x2018, 0x2020, 0x2028, 0x2030, 0x2039,
    0x203b, 0x203f, 0x2041, 0x2044, 0x2047, 0x2052, 0x2053, 0x2054, 0x2055, 0x205f, 0x2cf9,
    0x2cfd, 0x2cfe, 0x2d00, 0x2d70, 0x2d71, 0x2e00, 0x2e02, 0x2e06, 0x2e09, 0x2e0b, 0x2e0c,
    0x2e0e, 0x2e17, 0x2e18, 0x2e1a, 0x2e1b, 0x2e1c, 0x2e1e, 0x2e20, 0x2e2a, 0x2e2f, 0x2e30,
    0x2e3a, 0x2e3c, 0x2e40, 0x2e41, 0x2e42, 0x2e43, 0x2e50, 0x2e52, 0x2e55, 0x3001, 0x3004,
    0x303d, 0x303e, 0x30fb, 0x30fc, 0xa4fe, 0xa500, 0xa60d, 0xa610, 0xa673, 0xa674, 0xa67e,
    0xa67f, 0xa6f2, 0xa6f8, 0xa874, 0xa878, 0xa8ce, 0xa8d0, 0xa8f8, 0xa8fb, 0xa8fc, 0xa8fd,
    0xa92e, 0xa930, 0xa95f, 0xa960, 0xa9c1, 0xa9ce, 0xa9de, 0xa9e0, 0xaa5c, 0xaa60, 0xaade,
    0xaae0, 0xaaf0, 0xaaf2, 0xabeb, 0xabec, 0xfe10, 0xfe17, 0xfe19, 0xfe1a, 0xfe30, 0xfe31,
    0xfe45, 0xfe47, 0xfe49, 0xfe4d, 0xfe50, 0xfe53, 0xfe54, 0xfe58, 0xfe5f, 0xfe62, 0xfe68,
    0xfe69, 0xfe6a, 0xfe6c, 0xff01, 0xff04, 0xff05, 0xff08, 0xff0a, 0xff0b, 0xff0c, 0xff0d,
    0xff0e, 0xff10, 0xff1a, 0xff1c, 0xff1f, 0xff21, 0xff3c, 0xff3d, 0xff61, 0xff62, 0xff64,
    0xff66, 0x10100, 0x10103, 0x1039f, 0x103a0, 0x103d0, 0x103d1, 0x1056f, 0x10570, 0x10857,
    0x10858, 0x1091f, 0x10920, 0x1093f, 0x10940, 0x10a50, 0x10a59, 0x10a7f, 0x10a80, 0x10af0,
    0x10af7, 0x10b39, 0x10b40, 0x10b99, 0x10b9d, 0x10f55, 0x10f5a, 0x10f86, 0x10f8a, 0x11047,
    0x1104e, 0x110bb, 0x110bd, 0x110be, 0x110c2, 0x11140, 0x11144, 0x11174, 0x11176, 0x111c5,
    0x111c9, 0x111cd, 0x111ce, 0x111db, 0x111dc, 0x111dd, 0x111e0, 0x11238, 0x1123e, 0x112a9,
    0x112aa, 0x1144b, 0x11450, 0x1145a, 0x1145c, 0x1145d, 0x1145e, 0x114c6, 0x114c7, 0x115c1,
    0x115d8, 0x11641, 0x11644, 0x11660, 0x1166d, 0x116b9, 0x116ba, 0x1173c, 0x1173f, 0x1183b,
    0x1183c, 0x11944, 0x11947, 0x119e2, 0x119e3, 0x11a3f, 0x11a47, 0x11a9a, 0x11a9d, 0x11a9e,
    0x11aa3, 0x11b00, 0x11b0a, 0x11c41, 0x11c46, 0x11c70, 0x11c72, 0x11ef7, 0x11ef9, 0x11f43,
    0x11f50, 0x11fff, 0x12000, 0x12470, 0x12475, 0x12ff1, 0x12ff3, 0x16a6e, 0x16a70, 0x16af5,
    0x16af6, 0x16b37, 0x16b3c, 0x16b44, 0x16b45, 0x16e97, 0x16e9b, 0x16fe2, 0x16fe3, 0x1bc9f,
    0x1bca0, 0x1da87, 0x1da8c, 0x1e95e, 0x1e960]⟩

/-- Symbols of mathematics. -/
def mathSymbols : CharSet :=
  ⟨[0x2b, 0x2c, 0x3c, 0x3f, 0x7c, 0x7d, 0x7e, 0x7f, 0xac, 0xad, 0xb1, 0xb2, 0xd7, 0xd8, 0xf7,
    0xf8, 0x3f6, 0x3f7, 0x606, 0x609, 0x2044, 0x2045, 0x2052, 0x2053, 0x207a, 0x207d, 0x208a,
    0x208d, 0x2118, 0x2119, 0x2140, 0x2145, 0x214b, 0x214c, 0x2190, 0x2195, 0x219a, 0x219c,
    0x21a0, 0x21a1, 0x21a3, 0x21a4, 0x21a6, 0x21a7, 0x21ae, 0x21af, 0x21ce, 0x21d0, 0x21d2,
    0x21d3, 0x21d4, 0x21d5, 0x21f4, 0x2300, 0x2320, 0x2322, 0x237c, 0x237d, 0x239b, 0x23b4,
    0x23dc, 0x23e2, 0x25b7, 0x25b8, 0x25c1, 0x25c2, 0x25f8, 0x2600, 0x266f, 0x2670, 0x27c0,
    0x27c5, 0x27c7, 0x27e6, 0x27f0, 0x2800, 0x2900, 0x2983, 0x2999, 0x29d8, 0x29dc, 0x29fc,
    0x29fe, 0x2b00, 0x2b30, 0x2b45, 0x2b47, 0x2b4d, 0xfb29, 0xfb2a, 0xfe62, 0xfe63, 0xfe64,
    0xfe67, 0xff0b, 0xff0c, 0xff1c, 0xff1f, 0xff5c, 0xff5d, 0xff5e, 0xff5f, 0xffe2, 0xffe3,
    0xffe9, 0xffed, 0x1d6c1, 0x1d6c2, 0x1d6db, 0x1d6dc, 0x1d6fb, 0x1d6fc, 0x1d715, 0x1d716,
    0x1d735, 0x1d736, 0x1d74f, 0x1d750, 0x1d76f, 0x1d770, 0x1d789, 0x1d78a, 0x1d7a9, 0x1d7aa,
    0x1d7c3, 0x1d7c4, 0x1eef0, 0x1eef2]⟩

/-- Symbols of currencies. -/
def currencySymbols : CharSet :=
  ⟨[0x24, 0x25, 0xa2, 0xa6, 0x58f, 0x590, 0x60b, 0x60c, 0x7fe, 0x800, 0x9f2, 0x9f4, 0x9fb, 0x9fc,
    0xaf1, 0xaf2, 0xbf9, 0xbfa, 0xe3f, 0xe40, 0x17db, 0x17dc, 0x20a0, 0x20c1, 0xa838, 0xa839,
    0xfdfc, 0xfdfd, 0xfe69, 0xfe6a, 0xff04, 0xff05, 0xffe0, 0xffe2, 0xffe5, 0xffe7, 0x11fdd,
    0x11fe1, 0x1e2ff, 0x1e300, 0x1ecb0, 0x1ecb1]⟩

/-- Symbols that modify. -/
def modifierSymbols : CharSet :=
  ⟨[0x5e, 0x5f, 0x60, 0x61, 0xa8, 0xa9, 0xaf, 0xb0, 0xb4, 0xb5, 0xb8, 0xb9, 0x2c2, 0x2c6, 0x2d2,
    0x2e0, 0x2e5, 0x2ec, 0x2ed, 0x2ee, 0x2ef, 0x300, 0x375, 0x376, 0x384, 0x386, 0x888, 0x889,
    0x1fbd, 0x1fbe, 0x1fbf, 0x1fc2, 0x1fcd, 0x1fd0, 0x1fdd, 0x1fe0, 0x1fed, 0x1ff0, 0x1ffd,
    0x1fff, 0x309b, 0x309d, 0xa700, 0xa717, 0xa720, 0xa722, 0xa789, 0xa78b, 0xab5b, 0xab5c,
    0xab6a, 0xab6c, 0xfbb2, 0xfbc3, 0xff3e, 0xff3f, 0xff40, 0xff41, 0xffe3, 0xffe4, 0x1f3fb,
    0x1f400]⟩

/-- Symbols of other kinds. -/
def otherSymbols : CharSet :=
  ⟨[0xa6, 0xa7, 0xa9, 0xaa, 0xae, 0xaf, 0xb0, 0xb1, 0x482, 0x483, 0x58d, 0x58f, 0x60e, 0x610,
    0x6de, 0x6df, 0x6e9, 0x6ea, 0x6fd, 0x6ff, 0x7f6, 0x7f7, 0x9fa, 0x9fb, 0xb70, 0xb71, 0xbf3,
    0xbf9, 0xbfa, 0xbfb, 0xc7f, 0xc80, 0xd4f, 0xd50, 0xd79, 0xd7a, 0xf01, 0xf04, 0xf13, 0xf14,
    0xf15, 0xf18, 0xf1a, 0xf20, 0xf34, 0xf35, 0xf36, 0xf37, 0xf38, 0xf39, 0xfbe, 0xfc6, 0xfc7,
    0xfcd, 0xfce, 0xfd0, 0xfd5, 0xfd9, 0x109e, 0x10a0, 0x1390, 0x139a, 0x166d, 0x166e, 0x1940,
    0x1941, 0x19de, 0x1a00, 0x1b61, 0x1b6b, 0x1b74, 0x1b7d, 0x2100, 0x2102, 0x2103, 0x2107,
    0x2108, 0x210a, 0x2114, 0x2115, 0x2116, 0x2118, 0x211e, 0x2124, 0x2125, 0x2126, 0x2127,
    0x2128, 0x2129, 0x212a, 0x212e, 0x212f, 0x213a, 0x213c, 0x214a, 0x214b, 0x214c, 0x214e,
    0x214f, 0x2150, 0x218a, 0x218c, 0x2195, 0x219a, 0x219c, 0x21a0, 0x21a1, 0x21a3, 0x21a4,
    0x21a6, 0x21a7, 0x21ae, 0x21af, 0x21ce, 0x21d0, 0x21d2, 0x21d3, 0x21d4, 0x21d5, 0x21f4,
    0x2300, 0x2308, 0x230c, 0x2320, 0x2322, 0x2329, 0x232b, 0x237c, 0x237d, 0x239b, 0x23b4,
    0x23dc, 0x23e2, 0x2427, 0x2440, 0x244b, 0x249c, 0x24ea, 0x2500, 0x25b7, 0x25b8, 0x25c1,
    0x25c2, 0x25f8, 0x2600, 0x266f, 0x2670, 0x2768, 0x2794, 0x27c0, 0x2800, 0x2900, 0x2b00,
    0x2b30, 0x2b45, 0x2b47, 0x2b4d, 0x2b74, 0x2b76, 0x2b96, 0x2b97, 0x2c00, 0x2ce5, 0x2ceb,
    0x2e50, 0x2e52, 0x2e80, 0x2e9a, 0x2e9b, 0x2ef4, 0x2f00, 0x2fd6, 0x2ff0, 0x2ffc, 0x3004,
    0x3005, 0x3012, 0x3014, 0x3020, 0x3021, 0x3036, 0x3038, 0x303e, 0x3040, 0x3190, 0x3192,
    0x3196, 0x31a0, 0x31c0, 0x31e4, 0x3200, 0x321f, 0x322a, 0x3248, 0x3250, 0x3251, 0x3260,
    0x3280, 0x328a, 0x32b1, 0x32c0, 0x3400, 0x4dc0, 0x4e00, 0xa490, 0xa4c7, 0xa828, 0xa82c,
    0xa836, 0xa838, 0xa839, 0xa83a, 0xaa77, 0xaa7a, 0xfd40, 0xfd50, 0xfdcf, 0xfdd0, 0xfdfd,
    0xfe00, 0xffe4, 0xffe5, 0xffe8, 0xffe9, 0xffed, 0xffef, 0xfffc, 0xfffe, 0x10137, 0x10140,
    0x10179, 0x1018a, 0x1018c, 0x1018f, 0x10190, 0x1019d, 0x101a0, 0x101a1, 0x101d0, 0x101fd,
    0x10877, 0x10879, 0x10ac8, 0x10ac9, 0x1173f, 0x11740, 0x11fd5, 0x11fdd, 0x11fe1, 0x11ff2,
    0x16b3c, 0x16b40, 0x16b45, 0x16b46, 0x1bc9c, 0x1bc9d, 0x1cf50, 0x1cfc4, 0x1d000, 0x1d0f6,
    0x1d100, 0x1d127, 0x1d129, 0x1d165, 0x1d16a, 0x1d16d, 0x1d183, 0x1d185, 0x1d18c, 0x1d1aa,
    0x1d1ae, 0x1d1eb, 0x1d200, 0x1d242, 0x1d245, 0x1d246, 0x1d300, 0x1d357, 0x1d800, 0x1da00,
    0x1da37, 0x1da3b, 0x1da6d, 0x1da75, 0x1da76, 0x1da84, 0x1da85, 0x1da87, 0x1e14f, 0x1e150,
    0x1ecac, 0x1ecad, 0x1ed2e, 0x1ed2f, 0x1f000, 0x1f02c, 0x1f030, 0x1f094, 0x1f0a0, 0x1f0af,
    0x1f0b1, 0x1f0c0, 0x1f0c1, 0x1f0d0, 0x1f0d1, 0x1f0f6, 0x1f10d, 0x1f1ae, 0x1f1e6, 0x1f203,
    0x1f210, 0x1f23c, 0x1f240, 0x1f249, 0x1f250, 0x1f252, 0x1f260, 0x1f266, 0x1f300, 0x1f3fb,
    0x1f400, 0x1f6d8, 0x1f6dc, 0x1f6ed, 0x1f6f0, 0x1f6fd, 0x1f700, 0x1f777, 0x1f77b, 0x1f7da,
    0x1f7e0, 0x1f7ec, 0x1f7f0, 0x1f7f1, 0x1f800, 0x1f80c, 0x1f810, 0x1f848, 0x1f850, 0x1f85a,
    0x1f860, 0x1f888, 0x1f890, 0x1f8ae, 0x1f8b0, 0x1f8b2, 0x1f900, 0x1fa54, 0x1fa60, 0x1fa6e,
    0x1fa70, 0x1fa7d, 0x1fa80, 0x1fa89, 0x1fa90, 0x1fabe, 0x1fabf, 0x1fac6, 0x1face, 0x1fadc,
    0x1fae0, 0x1fae9, 0x1faf0, 0x1faf9, 0x1fb00, 0x1fb93, 0x1fb94, 0x1fbcb]⟩

/-- Spaces. -/
def spaces : CharSet :=
  ⟨[0x20, 0x21, 0xa0, 0xa1, 0x1680, 0x1681, 0x2000, 0x200b, 0x202f, 0x2030, 0x205f, 0x2060,
    0x3000, 0x3001]⟩

/-- Separators of lines. -/
def lineSeparators : CharSet :=
  ⟨[0x2028, 0x2029]⟩

/-- Separators of paragraphs. -/
def paragraphSeparators : CharSet :=
  ⟨[0x2029, 0x202a]⟩

/-- Control characters. -/
def controls : CharSet :=
  ⟨[0x0, 0x20, 0x7f, 0xa0]⟩

/-- Characters that format. -/
def formats : CharSet :=
  ⟨[0xad, 0xae, 0x600, 0x606, 0x61c, 0x61d, 0x6dd, 0x6de, 0x70f, 0x710, 0x890, 0x892, 0x8e2,
    0x8e3, 0x180e, 0x180f, 0x200b, 0x2010, 0x202a, 0x202f, 0x2060, 0x2065, 0x2066, 0x2070, 0xfeff,
    0xff00, 0xfff9, 0xfffc, 0x110bd, 0x110be, 0x110cd, 0x110ce, 0x13430, 0x13440, 0x1bca0,
    0x1bca4, 0x1d173, 0x1d17b, 0xe0001, 0xe0002, 0xe0020, 0xe0080]⟩

/-- Halves of pairs of units; none is a character. -/
def surrogates : CharSet :=
  ⟨[0xd800, 0xe000]⟩

/-- Characters for private use. -/
def privateUse : CharSet :=
  ⟨[0xe000, 0xf900, 0xf0000, 0xffffe, 0x100000, 0x10fffe]⟩

end Text
end RemoteRun
