import DnsPolicy.Unicode.Ranges

/-! Properties that characters have or lack, as far as they do not follow from the general category
or from one another. -/
namespace DnsPolicy.Unicode

def asciiHexDigit : Ranges := [(0x30,0x39),(0x41,0x46),(0x61,0x66)]

def annotationMark : Ranges := [(0xfff9,0xfffb)]

def bidiControl : Ranges := [(0x61c,0x61c),(0x200e,0x200f),(0x202a,0x202e),(0x2066,0x2069)]

def bidiMirrored : Ranges :=
  [(0x28,0x29),(0x3c,0x3c),(0x3e,0x3e),(0x5b,0x5b),(0x5d,0x5d),(0x7b,0x7b),(0x7d,0x7d),(0xab,0xab),
   (0xbb,0xbb),(0xf3a,0xf3d),(0x169b,0x169c),(0x2039,0x203a),(0x2045,0x2046),(0x207d,0x207e),
   (0x208d,0x208e),(0x2140,0x2140),(0x2201,0x2204),(0x2208,0x220d),(0x2211,0x2211),(0x2215,0x2216),
   (0x221a,0x221d),(0x221f,0x2222),(0x2224,0x2224),(0x2226,0x2226),(0x222b,0x2233),(0x2239,0x2239),
   (0x223b,0x224c),(0x2252,0x2255),(0x225f,0x2260),(0x2262,0x2262),(0x2264,0x226b),(0x226e,0x228c),
   (0x228f,0x2292),(0x2298,0x2298),(0x22a2,0x22a3),(0x22a6,0x22b8),(0x22be,0x22bf),(0x22c9,0x22cd),
   (0x22d0,0x22d1),(0x22d6,0x22ed),(0x22f0,0x22ff),(0x2308,0x230b),(0x2320,0x2321),(0x2329,0x232a),
   (0x2768,0x2775),(0x27c0,0x27c0),(0x27c3,0x27c6),(0x27c8,0x27c9),(0x27cb,0x27cd),(0x27d3,0x27d6),
   (0x27dc,0x27de),(0x27e2,0x27ef),(0x2983,0x2998),(0x299b,0x29a0),(0x29a2,0x29af),(0x29b8,0x29b8),
   (0x29c0,0x29c5),(0x29c9,0x29c9),(0x29ce,0x29d2),(0x29d4,0x29d5),(0x29d8,0x29dc),(0x29e1,0x29e1),
   (0x29e3,0x29e5),(0x29e8,0x29e9),(0x29f4,0x29f9),(0x29fc,0x29fd),(0x2a0a,0x2a1c),(0x2a1e,0x2a21),
   (0x2a24,0x2a24),(0x2a26,0x2a26),(0x2a29,0x2a29),(0x2a2b,0x2a2e),(0x2a34,0x2a35),(0x2a3c,0x2a3e),
   (0x2a57,0x2a58),(0x2a64,0x2a65),(0x2a6a,0x2a6d),(0x2a6f,0x2a70),(0x2a73,0x2a74),(0x2a79,0x2aa3),
   (0x2aa6,0x2aad),(0x2aaf,0x2ad6),(0x2adc,0x2adc),(0x2ade,0x2ade),(0x2ae2,0x2ae6),(0x2aec,0x2aee),
   (0x2af3,0x2af3),(0x2af7,0x2afb),(0x2afd,0x2afd),(0x2bfe,0x2bfe),(0x2e02,0x2e05),(0x2e09,0x2e0a),
   (0x2e0c,0x2e0d),(0x2e1c,0x2e1d),(0x2e20,0x2e29),(0x2e55,0x2e5c),(0x3008,0x3011),(0x3014,0x301b),
   (0xfe59,0xfe5e),(0xfe64,0xfe65),(0xff08,0xff09),(0xff1c,0xff1c),(0xff1e,0xff1e),(0xff3b,0xff3b),
   (0xff3d,0xff3d),(0xff5b,0xff5b),(0xff5d,0xff5d),(0xff5f,0xff60),(0xff62,0xff63),(0x1d6db,0x1d6db),
   (0x1d715,0x1d715),(0x1d74f,0x1d74f),(0x1d789,0x1d789),(0x1d7c3,0x1d7c3)]

def changesWhenLowercased : Ranges :=
  [(0x41,0x5a),(0xc0,0xd6),(0xd8,0xde),(0x100,0x100),(0x102,0x102),(0x104,0x104),(0x106,0x106),
   (0x108,0x108),(0x10a,0x10a),(0x10c,0x10c),(0x10e,0x10e),(0x110,0x110),(0x112,0x112),(0x114,0x114),
   (0x116,0x116),(0x118,0x118),(0x11a,0x11a),(0x11c,0x11c),(0x11e,0x11e),(0x120,0x120),(0x122,0x122),
   (0x124,0x124),(0x126,0x126),(0x128,0x128),(0x12a,0x12a),(0x12c,0x12c),(0x12e,0x12e),(0x130,0x130),
   (0x132,0x132),(0x134,0x134),(0x136,0x136),(0x139,0x139),(0x13b,0x13b),(0x13d,0x13d),(0x13f,0x13f),
   (0x141,0x141),(0x143,0x143),(0x145,0x145),(0x147,0x147),(0x14a,0x14a),(0x14c,0x14c),(0x14e,0x14e),
   (0x150,0x150),(0x152,0x152),(0x154,0x154),(0x156,0x156),(0x158,0x158),(0x15a,0x15a),(0x15c,0x15c),
   (0x15e,0x15e),(0x160,0x160),(0x162,0x162),(0x164,0x164),(0x166,0x166),(0x168,0x168),(0x16a,0x16a),
   (0x16c,0x16c),(0x16e,0x16e),(0x170,0x170),(0x172,0x172),(0x174,0x174),(0x176,0x176),(0x178,0x179),
   (0x17b,0x17b),(0x17d,0x17d),(0x181,0x182),(0x184,0x184),(0x186,0x187),(0x189,0x18b),(0x18e,0x191),
   (0x193,0x194),(0x196,0x198),(0x19c,0x19d),(0x19f,0x1a0),(0x1a2,0x1a2),(0x1a4,0x1a4),(0x1a6,0x1a7),
   (0x1a9,0x1a9),(0x1ac,0x1ac),(0x1ae,0x1af),(0x1b1,0x1b3),(0x1b5,0x1b5),(0x1b7,0x1b8),(0x1bc,0x1bc),
   (0x1c4,0x1c5),(0x1c7,0x1c8),(0x1ca,0x1cb),(0x1cd,0x1cd),(0x1cf,0x1cf),(0x1d1,0x1d1),(0x1d3,0x1d3),
   (0x1d5,0x1d5),(0x1d7,0x1d7),(0x1d9,0x1d9),(0x1db,0x1db),(0x1de,0x1de),(0x1e0,0x1e0),(0x1e2,0x1e2),
   (0x1e4,0x1e4),(0x1e6,0x1e6),(0x1e8,0x1e8),(0x1ea,0x1ea),(0x1ec,0x1ec),(0x1ee,0x1ee),(0x1f1,0x1f2),
   (0x1f4,0x1f4),(0x1f6,0x1f8),(0x1fa,0x1fa),(0x1fc,0x1fc),(0x1fe,0x1fe),(0x200,0x200),(0x202,0x202),
   (0x204,0x204),(0x206,0x206),(0x208,0x208),(0x20a,0x20a),(0x20c,0x20c),(0x20e,0x20e),(0x210,0x210),
   (0x212,0x212),(0x214,0x214),(0x216,0x216),(0x218,0x218),(0x21a,0x21a),(0x21c,0x21c),(0x21e,0x21e),
   (0x220,0x220),(0x222,0x222),(0x224,0x224),(0x226,0x226),(0x228,0x228),(0x22a,0x22a),(0x22c,0x22c),
   (0x22e,0x22e),(0x230,0x230),(0x232,0x232),(0x23a,0x23b),(0x23d,0x23e),(0x241,0x241),(0x243,0x246),
   (0x248,0x248),(0x24a,0x24a),(0x24c,0x24c),(0x24e,0x24e),(0x370,0x370),(0x372,0x372),(0x376,0x376),
   (0x37f,0x37f),(0x386,0x386),(0x388,0x38a),(0x38c,0x38c),(0x38e,0x38f),(0x391,0x3a1),(0x3a3,0x3ab),
   (0x3cf,0x3cf),(0x3d8,0x3d8),(0x3da,0x3da),(0x3dc,0x3dc),(0x3de,0x3de),(0x3e0,0x3e0),(0x3e2,0x3e2),
   (0x3e4,0x3e4),(0x3e6,0x3e6),(0x3e8,0x3e8),(0x3ea,0x3ea),(0x3ec,0x3ec),(0x3ee,0x3ee),(0x3f4,0x3f4),
   (0x3f7,0x3f7),(0x3f9,0x3fa),(0x3fd,0x42f),(0x460,0x460),(0x462,0x462),(0x464,0x464),(0x466,0x466),
   (0x468,0x468),(0x46a,0x46a),(0x46c,0x46c),(0x46e,0x46e),(0x470,0x470),(0x472,0x472),(0x474,0x474),
   (0x476,0x476),(0x478,0x478),(0x47a,0x47a),(0x47c,0x47c),(0x47e,0x47e),(0x480,0x480),(0x48a,0x48a),
   (0x48c,0x48c),(0x48e,0x48e),(0x490,0x490),(0x492,0x492),(0x494,0x494),(0x496,0x496),(0x498,0x498),
   (0x49a,0x49a),(0x49c,0x49c),(0x49e,0x49e),(0x4a0,0x4a0),(0x4a2,0x4a2),(0x4a4,0x4a4),(0x4a6,0x4a6),
   (0x4a8,0x4a8),(0x4aa,0x4aa),(0x4ac,0x4ac),(0x4ae,0x4ae),(0x4b0,0x4b0),(0x4b2,0x4b2),(0x4b4,0x4b4),
   (0x4b6,0x4b6),(0x4b8,0x4b8),(0x4ba,0x4ba),(0x4bc,0x4bc),(0x4be,0x4be),(0x4c0,0x4c1),(0x4c3,0x4c3),
   (0x4c5,0x4c5),(0x4c7,0x4c7),(0x4c9,0x4c9),(0x4cb,0x4cb),(0x4cd,0x4cd),(0x4d0,0x4d0),(0x4d2,0x4d2),
   (0x4d4,0x4d4),(0x4d6,0x4d6),(0x4d8,0x4d8),(0x4da,0x4da),(0x4dc,0x4dc),(0x4de,0x4de),(0x4e0,0x4e0),
   (0x4e2,0x4e2),(0x4e4,0x4e4),(0x4e6,0x4e6),(0x4e8,0x4e8),(0x4ea,0x4ea),(0x4ec,0x4ec),(0x4ee,0x4ee),
   (0x4f0,0x4f0),(0x4f2,0x4f2),(0x4f4,0x4f4),(0x4f6,0x4f6),(0x4f8,0x4f8),(0x4fa,0x4fa),(0x4fc,0x4fc),
   (0x4fe,0x4fe),(0x500,0x500),(0x502,0x502),(0x504,0x504),(0x506,0x506),(0x508,0x508),(0x50a,0x50a),
   (0x50c,0x50c),(0x50e,0x50e),(0x510,0x510),(0x512,0x512),(0x514,0x514),(0x516,0x516),(0x518,0x518),
   (0x51a,0x51a),(0x51c,0x51c),(0x51e,0x51e),(0x520,0x520),(0x522,0x522),(0x524,0x524),(0x526,0x526),
   (0x528,0x528),(0x52a,0x52a),(0x52c,0x52c),(0x52e,0x52e),(0x531,0x556),(0x10a0,0x10c5),(0x10c7,0x10c7),
   (0x10cd,0x10cd),(0x13a0,0x13f5),(0x1c90,0x1cba),(0x1cbd,0x1cbf),(0x1e00,0x1e00),(0x1e02,0x1e02),
   (0x1e04,0x1e04),(0x1e06,0x1e06),(0x1e08,0x1e08),(0x1e0a,0x1e0a),(0x1e0c,0x1e0c),(0x1e0e,0x1e0e),
   (0x1e10,0x1e10),(0x1e12,0x1e12),(0x1e14,0x1e14),(0x1e16,0x1e16),(0x1e18,0x1e18),(0x1e1a,0x1e1a),
   (0x1e1c,0x1e1c),(0x1e1e,0x1e1e),(0x1e20,0x1e20),(0x1e22,0x1e22),(0x1e24,0x1e24),(0x1e26,0x1e26),
   (0x1e28,0x1e28),(0x1e2a,0x1e2a),(0x1e2c,0x1e2c),(0x1e2e,0x1e2e),(0x1e30,0x1e30),(0x1e32,0x1e32),
   (0x1e34,0x1e34),(0x1e36,0x1e36),(0x1e38,0x1e38),(0x1e3a,0x1e3a),(0x1e3c,0x1e3c),(0x1e3e,0x1e3e),
   (0x1e40,0x1e40),(0x1e42,0x1e42),(0x1e44,0x1e44),(0x1e46,0x1e46),(0x1e48,0x1e48),(0x1e4a,0x1e4a),
   (0x1e4c,0x1e4c),(0x1e4e,0x1e4e),(0x1e50,0x1e50),(0x1e52,0x1e52),(0x1e54,0x1e54),(0x1e56,0x1e56),
   (0x1e58,0x1e58),(0x1e5a,0x1e5a),(0x1e5c,0x1e5c),(0x1e5e,0x1e5e),(0x1e60,0x1e60),(0x1e62,0x1e62),
   (0x1e64,0x1e64),(0x1e66,0x1e66),(0x1e68,0x1e68),(0x1e6a,0x1e6a),(0x1e6c,0x1e6c),(0x1e6e,0x1e6e),
   (0x1e70,0x1e70),(0x1e72,0x1e72),(0x1e74,0x1e74),(0x1e76,0x1e76),(0x1e78,0x1e78),(0x1e7a,0x1e7a),
   (0x1e7c,0x1e7c),(0x1e7e,0x1e7e),(0x1e80,0x1e80),(0x1e82,0x1e82),(0x1e84,0x1e84),(0x1e86,0x1e86),
   (0x1e88,0x1e88),(0x1e8a,0x1e8a),(0x1e8c,0x1e8c),(0x1e8e,0x1e8e),(0x1e90,0x1e90),(0x1e92,0x1e92),
   (0x1e94,0x1e94),(0x1e9e,0x1e9e),(0x1ea0,0x1ea0),(0x1ea2,0x1ea2),(0x1ea4,0x1ea4),(0x1ea6,0x1ea6),
   (0x1ea8,0x1ea8),(0x1eaa,0x1eaa),(0x1eac,0x1eac),(0x1eae,0x1eae),(0x1eb0,0x1eb0),(0x1eb2,0x1eb2),
   (0x1eb4,0x1eb4),(0x1eb6,0x1eb6),(0x1eb8,0x1eb8),(0x1eba,0x1eba),(0x1ebc,0x1ebc),(0x1ebe,0x1ebe),
   (0x1ec0,0x1ec0),(0x1ec2,0x1ec2),(0x1ec4,0x1ec4),(0x1ec6,0x1ec6),(0x1ec8,0x1ec8),(0x1eca,0x1eca),
   (0x1ecc,0x1ecc),(0x1ece,0x1ece),(0x1ed0,0x1ed0),(0x1ed2,0x1ed2),(0x1ed4,0x1ed4),(0x1ed6,0x1ed6),
   (0x1ed8,0x1ed8),(0x1eda,0x1eda),(0x1edc,0x1edc),(0x1ede,0x1ede),(0x1ee0,0x1ee0),(0x1ee2,0x1ee2),
   (0x1ee4,0x1ee4),(0x1ee6,0x1ee6),(0x1ee8,0x1ee8),(0x1eea,0x1eea),(0x1eec,0x1eec),(0x1eee,0x1eee),
   (0x1ef0,0x1ef0),(0x1ef2,0x1ef2),(0x1ef4,0x1ef4),(0x1ef6,0x1ef6),(0x1ef8,0x1ef8),(0x1efa,0x1efa),
   (0x1efc,0x1efc),(0x1efe,0x1efe),(0x1f08,0x1f0f),(0x1f18,0x1f1d),(0x1f28,0x1f2f),(0x1f38,0x1f3f),
   (0x1f48,0x1f4d),(0x1f59,0x1f59),(0x1f5b,0x1f5b),(0x1f5d,0x1f5d),(0x1f5f,0x1f5f),(0x1f68,0x1f6f),
   (0x1f88,0x1f8f),(0x1f98,0x1f9f),(0x1fa8,0x1faf),(0x1fb8,0x1fbc),(0x1fc8,0x1fcc),(0x1fd8,0x1fdb),
   (0x1fe8,0x1fec),(0x1ff8,0x1ffc),(0x2126,0x2126),(0x212a,0x212b),(0x2132,0x2132),(0x2160,0x216f),
   (0x2183,0x2183),(0x24b6,0x24cf),(0x2c00,0x2c2f),(0x2c60,0x2c60),(0x2c62,0x2c64),(0x2c67,0x2c67),
   (0x2c69,0x2c69),(0x2c6b,0x2c6b),(0x2c6d,0x2c70),(0x2c72,0x2c72),(0x2c75,0x2c75),(0x2c7e,0x2c80),
   (0x2c82,0x2c82),(0x2c84,0x2c84),(0x2c86,0x2c86),(0x2c88,0x2c88),(0x2c8a,0x2c8a),(0x2c8c,0x2c8c),
   (0x2c8e,0x2c8e),(0x2c90,0x2c90),(0x2c92,0x2c92),(0x2c94,0x2c94),(0x2c96,0x2c96),(0x2c98,0x2c98),
   (0x2c9a,0x2c9a),(0x2c9c,0x2c9c),(0x2c9e,0x2c9e),(0x2ca0,0x2ca0),(0x2ca2,0x2ca2),(0x2ca4,0x2ca4),
   (0x2ca6,0x2ca6),(0x2ca8,0x2ca8),(0x2caa,0x2caa),(0x2cac,0x2cac),(0x2cae,0x2cae),(0x2cb0,0x2cb0),
   (0x2cb2,0x2cb2),(0x2cb4,0x2cb4),(0x2cb6,0x2cb6),(0x2cb8,0x2cb8),(0x2cba,0x2cba),(0x2cbc,0x2cbc),
   (0x2cbe,0x2cbe),(0x2cc0,0x2cc0),(0x2cc2,0x2cc2),(0x2cc4,0x2cc4),(0x2cc6,0x2cc6),(0x2cc8,0x2cc8),
   (0x2cca,0x2cca),(0x2ccc,0x2ccc),(0x2cce,0x2cce),(0x2cd0,0x2cd0),(0x2cd2,0x2cd2),(0x2cd4,0x2cd4),
   (0x2cd6,0x2cd6),(0x2cd8,0x2cd8),(0x2cda,0x2cda),(0x2cdc,0x2cdc),(0x2cde,0x2cde),(0x2ce0,0x2ce0),
   (0x2ce2,0x2ce2),(0x2ceb,0x2ceb),(0x2ced,0x2ced),(0x2cf2,0x2cf2),(0xa640,0xa640),(0xa642,0xa642),
   (0xa644,0xa644),(0xa646,0xa646),(0xa648,0xa648),(0xa64a,0xa64a),(0xa64c,0xa64c),(0xa64e,0xa64e),
   (0xa650,0xa650),(0xa652,0xa652),(0xa654,0xa654),(0xa656,0xa656),(0xa658,0xa658),(0xa65a,0xa65a),
   (0xa65c,0xa65c),(0xa65e,0xa65e),(0xa660,0xa660),(0xa662,0xa662),(0xa664,0xa664),(0xa666,0xa666),
   (0xa668,0xa668),(0xa66a,0xa66a),(0xa66c,0xa66c),(0xa680,0xa680),(0xa682,0xa682),(0xa684,0xa684),
   (0xa686,0xa686),(0xa688,0xa688),(0xa68a,0xa68a),(0xa68c,0xa68c),(0xa68e,0xa68e),(0xa690,0xa690),
   (0xa692,0xa692),(0xa694,0xa694),(0xa696,0xa696),(0xa698,0xa698),(0xa69a,0xa69a),(0xa722,0xa722),
   (0xa724,0xa724),(0xa726,0xa726),(0xa728,0xa728),(0xa72a,0xa72a),(0xa72c,0xa72c),(0xa72e,0xa72e),
   (0xa732,0xa732),(0xa734,0xa734),(0xa736,0xa736),(0xa738,0xa738),(0xa73a,0xa73a),(0xa73c,0xa73c),
   (0xa73e,0xa73e),(0xa740,0xa740),(0xa742,0xa742),(0xa744,0xa744),(0xa746,0xa746),(0xa748,0xa748),
   (0xa74a,0xa74a),(0xa74c,0xa74c),(0xa74e,0xa74e),(0xa750,0xa750),(0xa752,0xa752),(0xa754,0xa754),
   (0xa756,0xa756),(0xa758,0xa758),(0xa75a,0xa75a),(0xa75c,0xa75c),(0xa75e,0xa75e),(0xa760,0xa760),
   (0xa762,0xa762),(0xa764,0xa764),(0xa766,0xa766),(0xa768,0xa768),(0xa76a,0xa76a),(0xa76c,0xa76c),
   (0xa76e,0xa76e),(0xa779,0xa779),(0xa77b,0xa77b),(0xa77d,0xa77e),(0xa780,0xa780),(0xa782,0xa782),
   (0xa784,0xa784),(0xa786,0xa786),(0xa78b,0xa78b),(0xa78d,0xa78d),(0xa790,0xa790),(0xa792,0xa792),
   (0xa796,0xa796),(0xa798,0xa798),(0xa79a,0xa79a),(0xa79c,0xa79c),(0xa79e,0xa79e),(0xa7a0,0xa7a0),
   (0xa7a2,0xa7a2),(0xa7a4,0xa7a4),(0xa7a6,0xa7a6),(0xa7a8,0xa7a8),(0xa7aa,0xa7ae),(0xa7b0,0xa7b4),
   (0xa7b6,0xa7b6),(0xa7b8,0xa7b8),(0xa7ba,0xa7ba),(0xa7bc,0xa7bc),(0xa7be,0xa7be),(0xa7c0,0xa7c0),
   (0xa7c2,0xa7c2),(0xa7c4,0xa7c7),(0xa7c9,0xa7c9),(0xa7d0,0xa7d0),(0xa7d6,0xa7d6),(0xa7d8,0xa7d8),
   (0xa7f5,0xa7f5),(0xff21,0xff3a),(0x10400,0x10427),(0x104b0,0x104d3),(0x10570,0x1057a),(0x1057c,0x1058a),
   (0x1058c,0x10592),(0x10594,0x10595),(0x10c80,0x10cb2),(0x118a0,0x118bf),(0x16e40,0x16e5f),
   (0x1e900,0x1e921)]

def changesWhenUppercased : Ranges :=
  [(0x61,0x7a),(0xb5,0xb5),(0xdf,0xf6),(0xf8,0xff),(0x101,0x101),(0x103,0x103),(0x105,0x105),(0x107,0x107),
   (0x109,0x109),(0x10b,0x10b),(0x10d,0x10d),(0x10f,0x10f),(0x111,0x111),(0x113,0x113),(0x115,0x115),
   (0x117,0x117),(0x119,0x119),(0x11b,0x11b),(0x11d,0x11d),(0x11f,0x11f),(0x121,0x121),(0x123,0x123),
   (0x125,0x125),(0x127,0x127),(0x129,0x129),(0x12b,0x12b),(0x12d,0x12d),(0x12f,0x12f),(0x131,0x131),
   (0x133,0x133),(0x135,0x135),(0x137,0x137),(0x13a,0x13a),(0x13c,0x13c),(0x13e,0x13e),(0x140,0x140),
   (0x142,0x142),(0x144,0x144),(0x146,0x146),(0x148,0x149),(0x14b,0x14b),(0x14d,0x14d),(0x14f,0x14f),
   (0x151,0x151),(0x153,0x153),(0x155,0x155),(0x157,0x157),(0x159,0x159),(0x15b,0x15b),(0x15d,0x15d),
   (0x15f,0x15f),(0x161,0x161),(0x163,0x163),(0x165,0x165),(0x167,0x167),(0x169,0x169),(0x16b,0x16b),
   (0x16d,0x16d),(0x16f,0x16f),(0x171,0x171),(0x173,0x173),(0x175,0x175),(0x177,0x177),(0x17a,0x17a),
   (0x17c,0x17c),(0x17e,0x180),(0x183,0x183),(0x185,0x185),(0x188,0x188),(0x18c,0x18c),(0x192,0x192),
   (0x195,0x195),(0x199,0x19a),(0x19e,0x19e),(0x1a1,0x1a1),(0x1a3,0x1a3),(0x1a5,0x1a5),(0x1a8,0x1a8),
   (0x1ad,0x1ad),(0x1b0,0x1b0),(0x1b4,0x1b4),(0x1b6,0x1b6),(0x1b9,0x1b9),(0x1bd,0x1bd),(0x1bf,0x1bf),
   (0x1c5,0x1c6),(0x1c8,0x1c9),(0x1cb,0x1cc),(0x1ce,0x1ce),(0x1d0,0x1d0),(0x1d2,0x1d2),(0x1d4,0x1d4),
   (0x1d6,0x1d6),(0x1d8,0x1d8),(0x1da,0x1da),(0x1dc,0x1dd),(0x1df,0x1df),(0x1e1,0x1e1),(0x1e3,0x1e3),
   (0x1e5,0x1e5),(0x1e7,0x1e7),(0x1e9,0x1e9),(0x1eb,0x1eb),(0x1ed,0x1ed),(0x1ef,0x1f0),(0x1f2,0x1f3),
   (0x1f5,0x1f5),(0x1f9,0x1f9),(0x1fb,0x1fb),(0x1fd,0x1fd),(0x1ff,0x1ff),(0x201,0x201),(0x203,0x203),
   (0x205,0x205),(0x207,0x207),(0x209,0x209),(0x20b,0x20b),(0x20d,0x20d),(0x20f,0x20f),(0x211,0x211),
   (0x213,0x213),(0x215,0x215),(0x217,0x217),(0x219,0x219),(0x21b,0x21b),(0x21d,0x21d),(0x21f,0x21f),
   (0x223,0x223),(0x225,0x225),(0x227,0x227),(0x229,0x229),(0x22b,0x22b),(0x22d,0x22d),(0x22f,0x22f),
   (0x231,0x231),(0x233,0x233),(0x23c,0x23c),(0x23f,0x240),(0x242,0x242),(0x247,0x247),(0x249,0x249),
   (0x24b,0x24b),(0x24d,0x24d),(0x24f,0x254),(0x256,0x257),(0x259,0x259),(0x25b,0x25c),(0x260,0x261),
   (0x263,0x263),(0x265,0x266),(0x268,0x26c),(0x26f,0x26f),(0x271,0x272),(0x275,0x275),(0x27d,0x27d),
   (0x280,0x280),(0x282,0x283),(0x287,0x28c),(0x292,0x292),(0x29d,0x29e),(0x345,0x345),(0x371,0x371),
   (0x373,0x373),(0x377,0x377),(0x37b,0x37d),(0x390,0x390),(0x3ac,0x3ce),(0x3d0,0x3d1),(0x3d5,0x3d7),
   (0x3d9,0x3d9),(0x3db,0x3db),(0x3dd,0x3dd),(0x3df,0x3df),(0x3e1,0x3e1),(0x3e3,0x3e3),(0x3e5,0x3e5),
   (0x3e7,0x3e7),(0x3e9,0x3e9),(0x3eb,0x3eb),(0x3ed,0x3ed),(0x3ef,0x3f3),(0x3f5,0x3f5),(0x3f8,0x3f8),
   (0x3fb,0x3fb),(0x430,0x45f),(0x461,0x461),(0x463,0x463),(0x465,0x465),(0x467,0x467),(0x469,0x469),
   (0x46b,0x46b),(0x46d,0x46d),(0x46f,0x46f),(0x471,0x471),(0x473,0x473),(0x475,0x475),(0x477,0x477),
   (0x479,0x479),(0x47b,0x47b),(0x47d,0x47d),(0x47f,0x47f),(0x481,0x481),(0x48b,0x48b),(0x48d,0x48d),
   (0x48f,0x48f),(0x491,0x491),(0x493,0x493),(0x495,0x495),(0x497,0x497),(0x499,0x499),(0x49b,0x49b),
   (0x49d,0x49d),(0x49f,0x49f),(0x4a1,0x4a1),(0x4a3,0x4a3),(0x4a5,0x4a5),(0x4a7,0x4a7),(0x4a9,0x4a9),
   (0x4ab,0x4ab),(0x4ad,0x4ad),(0x4af,0x4af),(0x4b1,0x4b1),(0x4b3,0x4b3),(0x4b5,0x4b5),(0x4b7,0x4b7),
   (0x4b9,0x4b9),(0x4bb,0x4bb),(0x4bd,0x4bd),(0x4bf,0x4bf),(0x4c2,0x4c2),(0x4c4,0x4c4),(0x4c6,0x4c6),
   (0x4c8,0x4c8),(0x4ca,0x4ca),(0x4cc,0x4cc),(0x4ce,0x4cf),(0x4d1,0x4d1),(0x4d3,0x4d3),(0x4d5,0x4d5),
   (0x4d7,0x4d7),(0x4d9,0x4d9),(0x4db,0x4db),(0x4dd,0x4dd),(0x4df,0x4df),(0x4e1,0x4e1),(0x4e3,0x4e3),
   (0x4e5,0x4e5),(0x4e7,0x4e7),(0x4e9,0x4e9),(0x4eb,0x4eb),(0x4ed,0x4ed),(0x4ef,0x4ef),(0x4f1,0x4f1),
   (0x4f3,0x4f3),(0x4f5,0x4f5),(0x4f7,0x4f7),(0x4f9,0x4f9),(0x4fb,0x4fb),(0x4fd,0x4fd),(0x4ff,0x4ff),
   (0x501,0x501),(0x503,0x503),(0x505,0x505),(0x507,0x507),(0x509,0x509),(0x50b,0x50b),(0x50d,0x50d),
   (0x50f,0x50f),(0x511,0x511),(0x513,0x513),(0x515,0x515),(0x517,0x517),(0x519,0x519),(0x51b,0x51b),
   (0x51d,0x51d),(0x51f,0x51f),(0x521,0x521),(0x523,0x523),(0x525,0x525),(0x527,0x527),(0x529,0x529),
   (0x52b,0x52b),(0x52d,0x52d),(0x52f,0x52f),(0x561,0x587),(0x10d0,0x10fa),(0x10fd,0x10ff),(0x13f8,0x13fd),
   (0x1c80,0x1c88),(0x1d79,0x1d79),(0x1d7d,0x1d7d),(0x1d8e,0x1d8e),(0x1e01,0x1e01),(0x1e03,0x1e03),
   (0x1e05,0x1e05),(0x1e07,0x1e07),(0x1e09,0x1e09),(0x1e0b,0x1e0b),(0x1e0d,0x1e0d),(0x1e0f,0x1e0f),
   (0x1e11,0x1e11),(0x1e13,0x1e13),(0x1e15,0x1e15),(0x1e17,0x1e17),(0x1e19,0x1e19),(0x1e1b,0x1e1b),
   (0x1e1d,0x1e1d),(0x1e1f,0x1e1f),(0x1e21,0x1e21),(0x1e23,0x1e23),(0x1e25,0x1e25),(0x1e27,0x1e27),
   (0x1e29,0x1e29),(0x1e2b,0x1e2b),(0x1e2d,0x1e2d),(0x1e2f,0x1e2f),(0x1e31,0x1e31),(0x1e33,0x1e33),
   (0x1e35,0x1e35),(0x1e37,0x1e37),(0x1e39,0x1e39),(0x1e3b,0x1e3b),(0x1e3d,0x1e3d),(0x1e3f,0x1e3f),
   (0x1e41,0x1e41),(0x1e43,0x1e43),(0x1e45,0x1e45),(0x1e47,0x1e47),(0x1e49,0x1e49),(0x1e4b,0x1e4b),
   (0x1e4d,0x1e4d),(0x1e4f,0x1e4f),(0x1e51,0x1e51),(0x1e53,0x1e53),(0x1e55,0x1e55),(0x1e57,0x1e57),
   (0x1e59,0x1e59),(0x1e5b,0x1e5b),(0x1e5d,0x1e5d),(0x1e5f,0x1e5f),(0x1e61,0x1e61),(0x1e63,0x1e63),
   (0x1e65,0x1e65),(0x1e67,0x1e67),(0x1e69,0x1e69),(0x1e6b,0x1e6b),(0x1e6d,0x1e6d),(0x1e6f,0x1e6f),
   (0x1e71,0x1e71),(0x1e73,0x1e73),(0x1e75,0x1e75),(0x1e77,0x1e77),(0x1e79,0x1e79),(0x1e7b,0x1e7b),
   (0x1e7d,0x1e7d),(0x1e7f,0x1e7f),(0x1e81,0x1e81),(0x1e83,0x1e83),(0x1e85,0x1e85),(0x1e87,0x1e87),
   (0x1e89,0x1e89),(0x1e8b,0x1e8b),(0x1e8d,0x1e8d),(0x1e8f,0x1e8f),(0x1e91,0x1e91),(0x1e93,0x1e93),
   (0x1e95,0x1e9b),(0x1ea1,0x1ea1),(0x1ea3,0x1ea3),(0x1ea5,0x1ea5),(0x1ea7,0x1ea7),(0x1ea9,0x1ea9),
   (0x1eab,0x1eab),(0x1ead,0x1ead),(0x1eaf,0x1eaf),(0x1eb1,0x1eb1),(0x1eb3,0x1eb3),(0x1eb5,0x1eb5),
   (0x1eb7,0x1eb7),(0x1eb9,0x1eb9),(0x1ebb,0x1ebb),(0x1ebd,0x1ebd),(0x1ebf,0x1ebf),(0x1ec1,0x1ec1),
   (0x1ec3,0x1ec3),(0x1ec5,0x1ec5),(0x1ec7,0x1ec7),(0x1ec9,0x1ec9),(0x1ecb,0x1ecb),(0x1ecd,0x1ecd),
   (0x1ecf,0x1ecf),(0x1ed1,0x1ed1),(0x1ed3,0x1ed3),(0x1ed5,0x1ed5),(0x1ed7,0x1ed7),(0x1ed9,0x1ed9),
   (0x1edb,0x1edb),(0x1edd,0x1edd),(0x1edf,0x1edf),(0x1ee1,0x1ee1),(0x1ee3,0x1ee3),(0x1ee5,0x1ee5),
   (0x1ee7,0x1ee7),(0x1ee9,0x1ee9),(0x1eeb,0x1eeb),(0x1eed,0x1eed),(0x1eef,0x1eef),(0x1ef1,0x1ef1),
   (0x1ef3,0x1ef3),(0x1ef5,0x1ef5),(0x1ef7,0x1ef7),(0x1ef9,0x1ef9),(0x1efb,0x1efb),(0x1efd,0x1efd),
   (0x1eff,0x1f07),(0x1f10,0x1f15),(0x1f20,0x1f27),(0x1f30,0x1f37),(0x1f40,0x1f45),(0x1f50,0x1f57),
   (0x1f60,0x1f67),(0x1f70,0x1f7d),(0x1f80,0x1fb4),(0x1fb6,0x1fb7),(0x1fbc,0x1fbc),(0x1fbe,0x1fbe),
   (0x1fc2,0x1fc4),(0x1fc6,0x1fc7),(0x1fcc,0x1fcc),(0x1fd0,0x1fd3),(0x1fd6,0x1fd7),(0x1fe0,0x1fe7),
   (0x1ff2,0x1ff4),(0x1ff6,0x1ff7),(0x1ffc,0x1ffc),(0x214e,0x214e),(0x2170,0x217f),(0x2184,0x2184),
   (0x24d0,0x24e9),(0x2c30,0x2c5f),(0x2c61,0x2c61),(0x2c65,0x2c66),(0x2c68,0x2c68),(0x2c6a,0x2c6a),
   (0x2c6c,0x2c6c),(0x2c73,0x2c73),(0x2c76,0x2c76),(0x2c81,0x2c81),(0x2c83,0x2c83),(0x2c85,0x2c85),
   (0x2c87,0x2c87),(0x2c89,0x2c89),(0x2c8b,0x2c8b),(0x2c8d,0x2c8d),(0x2c8f,0x2c8f),(0x2c91,0x2c91),
   (0x2c93,0x2c93),(0x2c95,0x2c95),(0x2c97,0x2c97),(0x2c99,0x2c99),(0x2c9b,0x2c9b),(0x2c9d,0x2c9d),
   (0x2c9f,0x2c9f),(0x2ca1,0x2ca1),(0x2ca3,0x2ca3),(0x2ca5,0x2ca5),(0x2ca7,0x2ca7),(0x2ca9,0x2ca9),
   (0x2cab,0x2cab),(0x2cad,0x2cad),(0x2caf,0x2caf),(0x2cb1,0x2cb1),(0x2cb3,0x2cb3),(0x2cb5,0x2cb5),
   (0x2cb7,0x2cb7),(0x2cb9,0x2cb9),(0x2cbb,0x2cbb),(0x2cbd,0x2cbd),(0x2cbf,0x2cbf),(0x2cc1,0x2cc1),
   (0x2cc3,0x2cc3),(0x2cc5,0x2cc5),(0x2cc7,0x2cc7),(0x2cc9,0x2cc9),(0x2ccb,0x2ccb),(0x2ccd,0x2ccd),
   (0x2ccf,0x2ccf),(0x2cd1,0x2cd1),(0x2cd3,0x2cd3),(0x2cd5,0x2cd5),(0x2cd7,0x2cd7),(0x2cd9,0x2cd9),
   (0x2cdb,0x2cdb),(0x2cdd,0x2cdd),(0x2cdf,0x2cdf),(0x2ce1,0x2ce1),(0x2ce3,0x2ce3),(0x2cec,0x2cec),
   (0x2cee,0x2cee),(0x2cf3,0x2cf3),(0x2d00,0x2d25),(0x2d27,0x2d27),(0x2d2d,0x2d2d),(0xa641,0xa641),
   (0xa643,0xa643),(0xa645,0xa645),(0xa647,0xa647),(0xa649,0xa649),(0xa64b,0xa64b),(0xa64d,0xa64d),
   (0xa64f,0xa64f),(0xa651,0xa651),(0xa653,0xa653),(0xa655,0xa655),(0xa657,0xa657),(0xa659,0xa659),
   (0xa65b,0xa65b),(0xa65d,0xa65d),(0xa65f,0xa65f),(0xa661,0xa661),(0xa663,0xa663),(0xa665,0xa665),
   (0xa667,0xa667),(0xa669,0xa669),(0xa66b,0xa66b),(0xa66d,0xa66d),(0xa681,0xa681),(0xa683,0xa683),
   (0xa685,0xa685),(0xa687,0xa687),(0xa689,0xa689),(0xa68b,0xa68b),(0xa68d,0xa68d),(0xa68f,0xa68f),
   (0xa691,0xa691),(0xa693,0xa693),(0xa695,0xa695),(0xa697,0xa697),(0xa699,0xa699),(0xa69b,0xa69b),
   (0xa723,0xa723),(0xa725,0xa725),(0xa727,0xa727),(0xa729,0xa729),(0xa72b,0xa72b),(0xa72d,0xa72d),
   (0xa72f,0xa72f),(0xa733,0xa733),(0xa735,0xa735),(0xa737,0xa737),(0xa739,0xa739),(0xa73b,0xa73b),
   (0xa73d,0xa73d),(0xa73f,0xa73f),(0xa741,0xa741),(0xa743,0xa743),(0xa745,0xa745),(0xa747,0xa747),
   (0xa749,0xa749),(0xa74b,0xa74b),(0xa74d,0xa74d),(0xa74f,0xa74f),(0xa751,0xa751),(0xa753,0xa753),
   (0xa755,0xa755),(0xa757,0xa757),(0xa759,0xa759),(0xa75b,0xa75b),(0xa75d,0xa75d),(0xa75f,0xa75f),
   (0xa761,0xa761),(0xa763,0xa763),(0xa765,0xa765),(0xa767,0xa767),(0xa769,0xa769),(0xa76b,0xa76b),
   (0xa76d,0xa76d),(0xa76f,0xa76f),(0xa77a,0xa77a),(0xa77c,0xa77c),(0xa77f,0xa77f),(0xa781,0xa781),
   (0xa783,0xa783),(0xa785,0xa785),(0xa787,0xa787),(0xa78c,0xa78c),(0xa791,0xa791),(0xa793,0xa794),
   (0xa797,0xa797),(0xa799,0xa799),(0xa79b,0xa79b),(0xa79d,0xa79d),(0xa79f,0xa79f),(0xa7a1,0xa7a1),
   (0xa7a3,0xa7a3),(0xa7a5,0xa7a5),(0xa7a7,0xa7a7),(0xa7a9,0xa7a9),(0xa7b5,0xa7b5),(0xa7b7,0xa7b7),
   (0xa7b9,0xa7b9),(0xa7bb,0xa7bb),(0xa7bd,0xa7bd),(0xa7bf,0xa7bf),(0xa7c1,0xa7c1),(0xa7c3,0xa7c3),
   (0xa7c8,0xa7c8),(0xa7ca,0xa7ca),(0xa7d1,0xa7d1),(0xa7d7,0xa7d7),(0xa7d9,0xa7d9),(0xa7f6,0xa7f6),
   (0xab53,0xab53),(0xab70,0xabbf),(0xfb00,0xfb06),(0xfb13,0xfb17),(0xff41,0xff5a),(0x10428,0x1044f),
   (0x104d8,0x104fb),(0x10597,0x105a1),(0x105a3,0x105b1),(0x105b3,0x105b9),(0x105bb,0x105bc),
   (0x10cc0,0x10cf2),(0x118c0,0x118df),(0x16e60,0x16e7f),(0x1e922,0x1e943)]

/-- Characters that change when they are folded although they are in lower case as they are. -/
def folds : Ranges :=
  [(0xb5,0xb5),(0xdf,0xdf),(0x149,0x149),(0x17f,0x17f),(0x345,0x345),(0x3c2,0x3c2),(0x3d0,0x3d1),
   (0x3d5,0x3d6),(0x3f0,0x3f1),(0x3f5,0x3f5),(0x587,0x587),(0x13f8,0x13fd),(0x1c80,0x1c88),(0x1e9a,0x1e9b),
   (0x1f80,0x1f87),(0x1f90,0x1f97),(0x1fa0,0x1fa7),(0x1fb2,0x1fb4),(0x1fb7,0x1fb7),(0x1fc2,0x1fc4),
   (0x1fc7,0x1fc7),(0x1ff2,0x1ff4),(0x1ff7,0x1ff7),(0xab70,0xabbf),(0xfb00,0xfb06),(0xfb13,0xfb17)]

/-- Capital letters that title case writes with the second part small. -/
def titlecases : Ranges := [(0x1c4,0x1c4),(0x1c7,0x1c7),(0x1ca,0x1ca),(0x1f1,0x1f1)]

/-- Characters with an upper-case form that are their own form in title case. -/
def staysInTitlecase : Ranges :=
  [(0x1c5,0x1c5),(0x1c8,0x1c8),(0x1cb,0x1cb),(0x1f2,0x1f2),(0x10d0,0x10fa),(0x10fd,0x10ff),(0x1f88,0x1f8f),
   (0x1f98,0x1f9f),(0x1fa8,0x1faf),(0x1fbc,0x1fbc),(0x1fcc,0x1fcc),(0x1ffc,0x1ffc)]

def cherokeeCapital : Ranges := [(0x13a0,0x13f5)]

def dash : Ranges :=
  [(0x2d,0x2d),(0x58a,0x58a),(0x5be,0x5be),(0x1400,0x1400),(0x1806,0x1806),(0x2010,0x2015),(0x2053,0x2053),
   (0x207b,0x207b),(0x208b,0x208b),(0x2212,0x2212),(0x2e17,0x2e17),(0x2e1a,0x2e1a),(0x2e3a,0x2e3b),
   (0x2e40,0x2e40),(0x2e5d,0x2e5d),(0x301c,0x301c),(0x3030,0x3030),(0x30a0,0x30a0),(0xfe31,0xfe32),
   (0xfe58,0xfe58),(0xfe63,0xfe63),(0xff0d,0xff0d),(0x10ead,0x10ead)]

def deprecatedChar : Ranges :=
  [(0x149,0x149),(0x673,0x673),(0xf77,0xf77),(0xf79,0xf79),(0x17a3,0x17a4),(0x206a,0x206f),(0x2329,0x232a),
   (0xe0001,0xe0001)]

def diacritic : Ranges :=
  [(0x5e,0x5e),(0x60,0x60),(0xa8,0xa8),(0xaf,0xaf),(0xb4,0xb4),(0xb7,0xb8),(0x2b0,0x34e),(0x350,0x357),
   (0x35d,0x362),(0x374,0x375),(0x37a,0x37a),(0x384,0x385),(0x483,0x487),(0x559,0x559),(0x591,0x5a1),
   (0x5a3,0x5bd),(0x5bf,0x5bf),(0x5c1,0x5c2),(0x5c4,0x5c4),(0x64b,0x652),(0x657,0x658),(0x6df,0x6e0),
   (0x6e5,0x6e6),(0x6ea,0x6ec),(0x730,0x74a),(0x7a6,0x7b0),(0x7eb,0x7f5),(0x818,0x819),(0x898,0x89f),
   (0x8c9,0x8d2),(0x8e3,0x8fe),(0x93c,0x93c),(0x94d,0x94d),(0x951,0x954),(0x971,0x971),(0x9bc,0x9bc),
   (0x9cd,0x9cd),(0xa3c,0xa3c),(0xa4d,0xa4d),(0xabc,0xabc),(0xacd,0xacd),(0xafd,0xaff),(0xb3c,0xb3c),
   (0xb4d,0xb4d),(0xb55,0xb55),(0xbcd,0xbcd),(0xc3c,0xc3c),(0xc4d,0xc4d),(0xcbc,0xcbc),(0xccd,0xccd),
   (0xd3b,0xd3c),(0xd4d,0xd4d),(0xdca,0xdca),(0xe47,0xe4c),(0xe4e,0xe4e),(0xeba,0xeba),(0xec8,0xecc),
   (0xf18,0xf19),(0xf35,0xf35),(0xf37,0xf37),(0xf39,0xf39),(0xf3e,0xf3f),(0xf82,0xf84),(0xf86,0xf87),
   (0xfc6,0xfc6),(0x1037,0x1037),(0x1039,0x103a),(0x1063,0x1064),(0x1069,0x106d),(0x1087,0x108d),
   (0x108f,0x108f),(0x109a,0x109b),(0x135d,0x135f),(0x1714,0x1715),(0x17c9,0x17d3),(0x17dd,0x17dd),
   (0x1939,0x193b),(0x1a75,0x1a7c),(0x1a7f,0x1a7f),(0x1ab0,0x1abe),(0x1ac1,0x1acb),(0x1b34,0x1b34),
   (0x1b44,0x1b44),(0x1b6b,0x1b73),(0x1baa,0x1bab),(0x1c36,0x1c37),(0x1c78,0x1c7d),(0x1cd0,0x1ce8),
   (0x1ced,0x1ced),(0x1cf4,0x1cf4),(0x1cf7,0x1cf9),(0x1d2c,0x1d6a),(0x1dc4,0x1dcf),(0x1df5,0x1dff),
   (0x1fbd,0x1fbd),(0x1fbf,0x1fc1),(0x1fcd,0x1fcf),(0x1fdd,0x1fdf),(0x1fed,0x1fef),(0x1ffd,0x1ffe),
   (0x2cef,0x2cf1),(0x2e2f,0x2e2f),(0x302a,0x302f),(0x3099,0x309c),(0x30fc,0x30fc),(0xa66f,0xa66f),
   (0xa67c,0xa67d),(0xa67f,0xa67f),(0xa69c,0xa69d),(0xa6f0,0xa6f1),(0xa700,0xa721),(0xa788,0xa78a),
   (0xa7f8,0xa7f9),(0xa8c4,0xa8c4),(0xa8e0,0xa8f1),(0xa92b,0xa92e),(0xa953,0xa953),(0xa9b3,0xa9b3),
   (0xa9c0,0xa9c0),(0xa9e5,0xa9e5),(0xaa7b,0xaa7d),(0xaabf,0xaac2),(0xaaf6,0xaaf6),(0xab5b,0xab5f),
   (0xab69,0xab6b),(0xabec,0xabed),(0xfb1e,0xfb1e),(0xfe20,0xfe2f),(0xff3e,0xff3e),(0xff40,0xff40),
   (0xff70,0xff70),(0xff9e,0xff9f),(0xffe3,0xffe3),(0x102e0,0x102e0),(0x10780,0x10785),(0x10787,0x107b0),
   (0x107b2,0x107ba),(0x10ae5,0x10ae6),(0x10d22,0x10d27),(0x10efd,0x10eff),(0x10f46,0x10f50),
   (0x10f82,0x10f85),(0x11046,0x11046),(0x11070,0x11070),(0x110b9,0x110ba),(0x11133,0x11134),
   (0x11173,0x11173),(0x111c0,0x111c0),(0x111ca,0x111cc),(0x11235,0x11236),(0x112e9,0x112ea),
   (0x1133c,0x1133c),(0x1134d,0x1134d),(0x11366,0x1136c),(0x11370,0x11374),(0x11442,0x11442),
   (0x11446,0x11446),(0x114c2,0x114c3),(0x115bf,0x115c0),(0x1163f,0x1163f),(0x116b6,0x116b7),
   (0x1172b,0x1172b),(0x11839,0x1183a),(0x1193d,0x1193e),(0x11943,0x11943),(0x119e0,0x119e0),
   (0x11a34,0x11a34),(0x11a47,0x11a47),(0x11a99,0x11a99),(0x11c3f,0x11c3f),(0x11d42,0x11d42),
   (0x11d44,0x11d45),(0x11d97,0x11d97),(0x13447,0x13455),(0x16af0,0x16af4),(0x16b30,0x16b36),
   (0x16f8f,0x16f9f),(0x16ff0,0x16ff1),(0x1aff0,0x1aff3),(0x1aff5,0x1affb),(0x1affd,0x1affe),
   (0x1cf00,0x1cf2d),(0x1cf30,0x1cf46),(0x1d167,0x1d169),(0x1d16d,0x1d172),(0x1d17b,0x1d182),
   (0x1d185,0x1d18b),(0x1d1aa,0x1d1ad),(0x1e030,0x1e06d),(0x1e130,0x1e136),(0x1e2ae,0x1e2ae),
   (0x1e2ec,0x1e2ef),(0x1e8d0,0x1e8d6),(0x1e944,0x1e946),(0x1e948,0x1e94a)]

def emoji : Ranges :=
  [(0x23,0x23),(0x2a,0x2a),(0x30,0x39),(0xa9,0xa9),(0xae,0xae),(0x203c,0x203c),(0x2049,0x2049),
   (0x2122,0x2122),(0x2139,0x2139),(0x2194,0x2199),(0x21a9,0x21aa),(0x231a,0x231b),(0x2328,0x2328),
   (0x23cf,0x23cf),(0x23e9,0x23f3),(0x23f8,0x23fa),(0x24c2,0x24c2),(0x25aa,0x25ab),(0x25b6,0x25b6),
   (0x25c0,0x25c0),(0x25fb,0x25fe),(0x2600,0x2604),(0x260e,0x260e),(0x2611,0x2611),(0x2614,0x2615),
   (0x2618,0x2618),(0x261d,0x261d),(0x2620,0x2620),(0x2622,0x2623),(0x2626,0x2626),(0x262a,0x262a),
   (0x262e,0x262f),(0x2638,0x263a),(0x2640,0x2640),(0x2642,0x2642),(0x2648,0x2653),(0x265f,0x2660),
   (0x2663,0x2663),(0x2665,0x2666),(0x2668,0x2668),(0x267b,0x267b),(0x267e,0x267f),(0x2692,0x2697),
   (0x2699,0x2699),(0x269b,0x269c),(0x26a0,0x26a1),(0x26a7,0x26a7),(0x26aa,0x26ab),(0x26b0,0x26b1),
   (0x26bd,0x26be),(0x26c4,0x26c5),(0x26c8,0x26c8),(0x26ce,0x26cf),(0x26d1,0x26d1),(0x26d3,0x26d4),
   (0x26e9,0x26ea),(0x26f0,0x26f5),(0x26f7,0x26fa),(0x26fd,0x26fd),(0x2702,0x2702),(0x2705,0x2705),
   (0x2708,0x270d),(0x270f,0x270f),(0x2712,0x2712),(0x2714,0x2714),(0x2716,0x2716),(0x271d,0x271d),
   (0x2721,0x2721),(0x2728,0x2728),(0x2733,0x2734),(0x2744,0x2744),(0x2747,0x2747),(0x274c,0x274c),
   (0x274e,0x274e),(0x2753,0x2755),(0x2757,0x2757),(0x2763,0x2764),(0x2795,0x2797),(0x27a1,0x27a1),
   (0x27b0,0x27b0),(0x27bf,0x27bf),(0x2934,0x2935),(0x2b05,0x2b07),(0x2b1b,0x2b1c),(0x2b50,0x2b50),
   (0x2b55,0x2b55),(0x3030,0x3030),(0x303d,0x303d),(0x3297,0x3297),(0x3299,0x3299),(0x1f004,0x1f004),
   (0x1f0cf,0x1f0cf),(0x1f170,0x1f171),(0x1f17e,0x1f17f),(0x1f18e,0x1f18e),(0x1f191,0x1f19a),
   (0x1f1e6,0x1f1ff),(0x1f201,0x1f202),(0x1f21a,0x1f21a),(0x1f22f,0x1f22f),(0x1f232,0x1f23a),
   (0x1f250,0x1f251),(0x1f300,0x1f321),(0x1f324,0x1f393),(0x1f396,0x1f397),(0x1f399,0x1f39b),
   (0x1f39e,0x1f3f0),(0x1f3f3,0x1f3f5),(0x1f3f7,0x1f4fd),(0x1f4ff,0x1f53d),(0x1f549,0x1f54e),
   (0x1f550,0x1f567),(0x1f56f,0x1f570),(0x1f573,0x1f57a),(0x1f587,0x1f587),(0x1f58a,0x1f58d),
   (0x1f590,0x1f590),(0x1f595,0x1f596),(0x1f5a4,0x1f5a5),(0x1f5a8,0x1f5a8),(0x1f5b1,0x1f5b2),
   (0x1f5bc,0x1f5bc),(0x1f5c2,0x1f5c4),(0x1f5d1,0x1f5d3),(0x1f5dc,0x1f5de),(0x1f5e1,0x1f5e1),
   (0x1f5e3,0x1f5e3),(0x1f5e8,0x1f5e8),(0x1f5ef,0x1f5ef),(0x1f5f3,0x1f5f3),(0x1f5fa,0x1f64f),
   (0x1f680,0x1f6c5),(0x1f6cb,0x1f6d2),(0x1f6d5,0x1f6d7),(0x1f6dc,0x1f6e5),(0x1f6e9,0x1f6e9),
   (0x1f6eb,0x1f6ec),(0x1f6f0,0x1f6f0),(0x1f6f3,0x1f6fc),(0x1f7e0,0x1f7eb),(0x1f7f0,0x1f7f0),
   (0x1f90c,0x1f93a),(0x1f93c,0x1f945),(0x1f947,0x1f9ff),(0x1fa70,0x1fa7c),(0x1fa80,0x1fa88),
   (0x1fa90,0x1fabd),(0x1fabf,0x1fac5),(0x1face,0x1fadb),(0x1fae0,0x1fae8),(0x1faf0,0x1faf8)]

def emojiComponent : Ranges :=
  [(0x23,0x23),(0x2a,0x2a),(0x30,0x39),(0x200d,0x200d),(0x20e3,0x20e3),(0xfe0f,0xfe0f),(0x1f1e6,0x1f1ff),
   (0x1f3fb,0x1f3ff),(0x1f9b0,0x1f9b3),(0xe0020,0xe007f)]

def emojiModifier : Ranges := [(0x1f3fb,0x1f3ff)]

def emojiModifierBase : Ranges :=
  [(0x261d,0x261d),(0x26f9,0x26f9),(0x270a,0x270d),(0x1f385,0x1f385),(0x1f3c2,0x1f3c4),(0x1f3c7,0x1f3c7),
   (0x1f3ca,0x1f3cc),(0x1f442,0x1f443),(0x1f446,0x1f450),(0x1f466,0x1f478),(0x1f47c,0x1f47c),
   (0x1f481,0x1f483),(0x1f485,0x1f487),(0x1f48f,0x1f48f),(0x1f491,0x1f491),(0x1f4aa,0x1f4aa),
   (0x1f574,0x1f575),(0x1f57a,0x1f57a),(0x1f590,0x1f590),(0x1f595,0x1f596),(0x1f645,0x1f647),
   (0x1f64b,0x1f64f),(0x1f6a3,0x1f6a3),(0x1f6b4,0x1f6b6),(0x1f6c0,0x1f6c0),(0x1f6cc,0x1f6cc),
   (0x1f90c,0x1f90c),(0x1f90f,0x1f90f),(0x1f918,0x1f91f),(0x1f926,0x1f926),(0x1f930,0x1f939),
   (0x1f93c,0x1f93e),(0x1f977,0x1f977),(0x1f9b5,0x1f9b6),(0x1f9b8,0x1f9b9),(0x1f9bb,0x1f9bb),
   (0x1f9cd,0x1f9cf),(0x1f9d1,0x1f9dd),(0x1fac3,0x1fac5),(0x1faf0,0x1faf8)]

def emojiPresentation : Ranges :=
  [(0x231a,0x231b),(0x23e9,0x23ec),(0x23f0,0x23f0),(0x23f3,0x23f3),(0x25fd,0x25fe),(0x2614,0x2615),
   (0x2648,0x2653),(0x267f,0x267f),(0x2693,0x2693),(0x26a1,0x26a1),(0x26aa,0x26ab),(0x26bd,0x26be),
   (0x26c4,0x26c5),(0x26ce,0x26ce),(0x26d4,0x26d4),(0x26ea,0x26ea),(0x26f2,0x26f3),(0x26f5,0x26f5),
   (0x26fa,0x26fa),(0x26fd,0x26fd),(0x2705,0x2705),(0x270a,0x270b),(0x2728,0x2728),(0x274c,0x274c),
   (0x274e,0x274e),(0x2753,0x2755),(0x2757,0x2757),(0x2795,0x2797),(0x27b0,0x27b0),(0x27bf,0x27bf),
   (0x2b1b,0x2b1c),(0x2b50,0x2b50),(0x2b55,0x2b55),(0x1f004,0x1f004),(0x1f0cf,0x1f0cf),(0x1f18e,0x1f18e),
   (0x1f191,0x1f19a),(0x1f1e6,0x1f1ff),(0x1f201,0x1f201),(0x1f21a,0x1f21a),(0x1f22f,0x1f22f),
   (0x1f232,0x1f236),(0x1f238,0x1f23a),(0x1f250,0x1f251),(0x1f300,0x1f320),(0x1f32d,0x1f335),
   (0x1f337,0x1f37c),(0x1f37e,0x1f393),(0x1f3a0,0x1f3ca),(0x1f3cf,0x1f3d3),(0x1f3e0,0x1f3f0),
   (0x1f3f4,0x1f3f4),(0x1f3f8,0x1f43e),(0x1f440,0x1f440),(0x1f442,0x1f4fc),(0x1f4ff,0x1f53d),
   (0x1f54b,0x1f54e),(0x1f550,0x1f567),(0x1f57a,0x1f57a),(0x1f595,0x1f596),(0x1f5a4,0x1f5a4),
   (0x1f5fb,0x1f64f),(0x1f680,0x1f6c5),(0x1f6cc,0x1f6cc),(0x1f6d0,0x1f6d2),(0x1f6d5,0x1f6d7),
   (0x1f6dc,0x1f6df),(0x1f6eb,0x1f6ec),(0x1f6f4,0x1f6fc),(0x1f7e0,0x1f7eb),(0x1f7f0,0x1f7f0),
   (0x1f90c,0x1f93a),(0x1f93c,0x1f945),(0x1f947,0x1f9ff),(0x1fa70,0x1fa7c),(0x1fa80,0x1fa88),
   (0x1fa90,0x1fabd),(0x1fabf,0x1fac5),(0x1face,0x1fadb),(0x1fae0,0x1fae8),(0x1faf0,0x1faf8)]

def extendedPictographic : Ranges :=
  [(0xa9,0xa9),(0xae,0xae),(0x203c,0x203c),(0x2049,0x2049),(0x2122,0x2122),(0x2139,0x2139),(0x2194,0x2199),
   (0x21a9,0x21aa),(0x231a,0x231b),(0x2328,0x2328),(0x2388,0x2388),(0x23cf,0x23cf),(0x23e9,0x23f3),
   (0x23f8,0x23fa),(0x24c2,0x24c2),(0x25aa,0x25ab),(0x25b6,0x25b6),(0x25c0,0x25c0),(0x25fb,0x25fe),
   (0x2600,0x2605),(0x2607,0x2612),(0x2614,0x2685),(0x2690,0x2705),(0x2708,0x2712),(0x2714,0x2714),
   (0x2716,0x2716),(0x271d,0x271d),(0x2721,0x2721),(0x2728,0x2728),(0x2733,0x2734),(0x2744,0x2744),
   (0x2747,0x2747),(0x274c,0x274c),(0x274e,0x274e),(0x2753,0x2755),(0x2757,0x2757),(0x2763,0x2767),
   (0x2795,0x2797),(0x27a1,0x27a1),(0x27b0,0x27b0),(0x27bf,0x27bf),(0x2934,0x2935),(0x2b05,0x2b07),
   (0x2b1b,0x2b1c),(0x2b50,0x2b50),(0x2b55,0x2b55),(0x3030,0x3030),(0x303d,0x303d),(0x3297,0x3297),
   (0x3299,0x3299),(0x1f000,0x1f0ff),(0x1f10d,0x1f10f),(0x1f12f,0x1f12f),(0x1f16c,0x1f171),
   (0x1f17e,0x1f17f),(0x1f18e,0x1f18e),(0x1f191,0x1f19a),(0x1f1ad,0x1f1e5),(0x1f201,0x1f20f),
   (0x1f21a,0x1f21a),(0x1f22f,0x1f22f),(0x1f232,0x1f23a),(0x1f23c,0x1f23f),(0x1f249,0x1f3fa),
   (0x1f400,0x1f53d),(0x1f546,0x1f64f),(0x1f680,0x1f6ff),(0x1f774,0x1f77f),(0x1f7d5,0x1f7ff),
   (0x1f80c,0x1f80f),(0x1f848,0x1f84f),(0x1f85a,0x1f85f),(0x1f888,0x1f88f),(0x1f8ae,0x1f8ff),
   (0x1f90c,0x1f93a),(0x1f93c,0x1f945),(0x1f947,0x1faff),(0x1fc00,0x1fffd)]

def extender : Ranges :=
  [(0xb7,0xb7),(0x2d0,0x2d1),(0x640,0x640),(0x7fa,0x7fa),(0xb55,0xb55),(0xe46,0xe46),(0xec6,0xec6),
   (0x180a,0x180a),(0x1843,0x1843),(0x1aa7,0x1aa7),(0x1c36,0x1c36),(0x1c7b,0x1c7b),(0x3005,0x3005),
   (0x3031,0x3035),(0x309d,0x309e),(0x30fc,0x30fe),(0xa015,0xa015),(0xa60c,0xa60c),(0xa9cf,0xa9cf),
   (0xa9e6,0xa9e6),(0xaa70,0xaa70),(0xaadd,0xaadd),(0xaaf3,0xaaf4),(0xff70,0xff70),(0x10781,0x10782),
   (0x1135d,0x1135d),(0x115c6,0x115c8),(0x11a98,0x11a98),(0x16b42,0x16b43),(0x16fe0,0x16fe1),
   (0x16fe3,0x16fe3),(0x1e13c,0x1e13d),(0x1e944,0x1e946)]

def graphemeLink : Ranges :=
  [(0x94d,0x94d),(0x9cd,0x9cd),(0xa4d,0xa4d),(0xacd,0xacd),(0xb4d,0xb4d),(0xbcd,0xbcd),(0xc4d,0xc4d),
   (0xccd,0xccd),(0xd3b,0xd3c),(0xd4d,0xd4d),(0xdca,0xdca),(0xe3a,0xe3a),(0xeba,0xeba),(0xf84,0xf84),
   (0x1039,0x103a),(0x1714,0x1715),(0x1734,0x1734),(0x17d2,0x17d2),(0x1a60,0x1a60),(0x1b44,0x1b44),
   (0x1baa,0x1bab),(0x1bf2,0x1bf3),(0x2d7f,0x2d7f),(0xa806,0xa806),(0xa82c,0xa82c),(0xa8c4,0xa8c4),
   (0xa953,0xa953),(0xa9c0,0xa9c0),(0xaaf6,0xaaf6),(0xabed,0xabed),(0x10a3f,0x10a3f),(0x11046,0x11046),
   (0x11070,0x11070),(0x1107f,0x1107f),(0x110b9,0x110b9),(0x11133,0x11134),(0x111c0,0x111c0),
   (0x11235,0x11235),(0x112ea,0x112ea),(0x1134d,0x1134d),(0x11442,0x11442),(0x114c2,0x114c2),
   (0x115bf,0x115bf),(0x1163f,0x1163f),(0x116b6,0x116b6),(0x1172b,0x1172b),(0x11839,0x11839),
   (0x1193d,0x1193e),(0x119e0,0x119e0),(0x11a34,0x11a34),(0x11a47,0x11a47),(0x11a99,0x11a99),
   (0x11c3f,0x11c3f),(0x11d44,0x11d45),(0x11d97,0x11d97),(0x11f41,0x11f42)]

def hexDigit : Ranges :=
  [(0x30,0x39),(0x41,0x46),(0x61,0x66),(0xff10,0xff19),(0xff21,0xff26),(0xff41,0xff46)]

def hieroglyphFormat : Ranges := [(0x13430,0x13440)]

def hyphen : Ranges :=
  [(0x2d,0x2d),(0xad,0xad),(0x58a,0x58a),(0x1806,0x1806),(0x2010,0x2011),(0x2e17,0x2e17),(0x30fb,0x30fb),
   (0xfe63,0xfe63),(0xff0d,0xff0d),(0xff65,0xff65)]

def idsBinaryOperator : Ranges := [(0x2ff0,0x2ff1),(0x2ff4,0x2ffb)]

def idsTrinaryOperator : Ranges := [(0x2ff2,0x2ff3)]

def ideographic : Ranges :=
  [(0x3006,0x3007),(0x3021,0x3029),(0x3038,0x303a),(0x3400,0x4dbf),(0x4e00,0x9fff),(0xf900,0xfa6d),
   (0xfa70,0xfad9),(0x16fe4,0x16fe4),(0x17000,0x187f7),(0x18800,0x18cd5),(0x18d00,0x18d08),
   (0x1b170,0x1b2fb),(0x20000,0x2a6df),(0x2a700,0x2b739),(0x2b740,0x2b81d),(0x2b820,0x2cea1),
   (0x2ceb0,0x2ebe0),(0x2f800,0x2fa1d),(0x30000,0x3134a),(0x31350,0x323af)]

def joinControl : Ranges := [(0x200c,0x200d)]

def logicalOrderException : Ranges :=
  [(0xe40,0xe44),(0xec0,0xec4),(0x19b5,0x19b7),(0x19ba,0x19ba),(0xaab5,0xaab6),(0xaab9,0xaab9),
   (0xaabb,0xaabc)]

def noncharacter : Ranges :=
  [(0xfdd0,0xfdef),(0xfffe,0xffff),(0x1fffe,0x1ffff),(0x2fffe,0x2ffff),(0x3fffe,0x3ffff),(0x4fffe,0x4ffff),
   (0x5fffe,0x5ffff),(0x6fffe,0x6ffff),(0x7fffe,0x7ffff),(0x8fffe,0x8ffff),(0x9fffe,0x9ffff),
   (0xafffe,0xaffff),(0xbfffe,0xbffff),(0xcfffe,0xcffff),(0xdfffe,0xdffff),(0xefffe,0xeffff),
   (0xffffe,0xfffff),(0x10fffe,0x10ffff)]

def otherAlphabetic : Ranges :=
  [(0x345,0x345),(0x5b0,0x5bd),(0x5bf,0x5bf),(0x5c1,0x5c2),(0x5c4,0x5c5),(0x5c7,0x5c7),(0x610,0x61a),
   (0x64b,0x657),(0x659,0x65f),(0x670,0x670),(0x6d6,0x6dc),(0x6e1,0x6e4),(0x6e7,0x6e8),(0x6ed,0x6ed),
   (0x711,0x711),(0x730,0x73f),(0x7a6,0x7b0),(0x816,0x817),(0x81b,0x823),(0x825,0x827),(0x829,0x82c),
   (0x8d4,0x8df),(0x8e3,0x8e9),(0x8f0,0x903),(0x93a,0x93b),(0x93e,0x94c),(0x94e,0x94f),(0x955,0x957),
   (0x962,0x963),(0x981,0x983),(0x9be,0x9c4),(0x9c7,0x9c8),(0x9cb,0x9cc),(0x9d7,0x9d7),(0x9e2,0x9e3),
   (0xa01,0xa03),(0xa3e,0xa42),(0xa47,0xa48),(0xa4b,0xa4c),(0xa51,0xa51),(0xa70,0xa71),(0xa75,0xa75),
   (0xa81,0xa83),(0xabe,0xac5),(0xac7,0xac9),(0xacb,0xacc),(0xae2,0xae3),(0xafa,0xafc),(0xb01,0xb03),
   (0xb3e,0xb44),(0xb47,0xb48),(0xb4b,0xb4c),(0xb56,0xb57),(0xb62,0xb63),(0xb82,0xb82),(0xbbe,0xbc2),
   (0xbc6,0xbc8),(0xbca,0xbcc),(0xbd7,0xbd7),(0xc00,0xc04),(0xc3e,0xc44),(0xc46,0xc48),(0xc4a,0xc4c),
   (0xc55,0xc56),(0xc62,0xc63),(0xc81,0xc83),(0xcbe,0xcc4),(0xcc6,0xcc8),(0xcca,0xccc),(0xcd5,0xcd6),
   (0xce2,0xce3),(0xcf3,0xcf3),(0xd00,0xd03),(0xd3e,0xd44),(0xd46,0xd48),(0xd4a,0xd4c),(0xd57,0xd57),
   (0xd62,0xd63),(0xd81,0xd83),(0xdcf,0xdd4),(0xdd6,0xdd6),(0xdd8,0xddf),(0xdf2,0xdf3),(0xe31,0xe31),
   (0xe34,0xe3a),(0xe4d,0xe4d),(0xeb1,0xeb1),(0xeb4,0xeb9),(0xebb,0xebc),(0xecd,0xecd),(0xf71,0xf83),
   (0xf8d,0xf97),(0xf99,0xfbc),(0x102b,0x1036),(0x1038,0x1038),(0x103b,0x103e),(0x1056,0x1059),
   (0x105e,0x1060),(0x1062,0x1064),(0x1067,0x106d),(0x1071,0x1074),(0x1082,0x108d),(0x108f,0x108f),
   (0x109a,0x109d),(0x1712,0x1713),(0x1732,0x1733),(0x1752,0x1753),(0x1772,0x1773),(0x17b6,0x17c8),
   (0x1885,0x1886),(0x18a9,0x18a9),(0x1920,0x192b),(0x1930,0x1938),(0x1a17,0x1a1b),(0x1a55,0x1a5e),
   (0x1a61,0x1a74),(0x1abf,0x1ac0),(0x1acc,0x1ace),(0x1b00,0x1b04),(0x1b35,0x1b43),(0x1b80,0x1b82),
   (0x1ba1,0x1ba9),(0x1bac,0x1bad),(0x1be7,0x1bf1),(0x1c24,0x1c36),(0x1de7,0x1df4),(0x24b6,0x24e9),
   (0x2de0,0x2dff),(0xa674,0xa67b),(0xa69e,0xa69f),(0xa802,0xa802),(0xa80b,0xa80b),(0xa823,0xa827),
   (0xa880,0xa881),(0xa8b4,0xa8c3),(0xa8c5,0xa8c5),(0xa8ff,0xa8ff),(0xa926,0xa92a),(0xa947,0xa952),
   (0xa980,0xa983),(0xa9b4,0xa9bf),(0xa9e5,0xa9e5),(0xaa29,0xaa36),(0xaa43,0xaa43),(0xaa4c,0xaa4d),
   (0xaa7b,0xaa7d),(0xaab0,0xaab0),(0xaab2,0xaab4),(0xaab7,0xaab8),(0xaabe,0xaabe),(0xaaeb,0xaaef),
   (0xaaf5,0xaaf5),(0xabe3,0xabea),(0xfb1e,0xfb1e),(0x10376,0x1037a),(0x10a01,0x10a03),(0x10a05,0x10a06),
   (0x10a0c,0x10a0f),(0x10d24,0x10d27),(0x10eab,0x10eac),(0x11000,0x11002),(0x11038,0x11045),
   (0x11073,0x11074),(0x11080,0x11082),(0x110b0,0x110b8),(0x110c2,0x110c2),(0x11100,0x11102),
   (0x11127,0x11132),(0x11145,0x11146),(0x11180,0x11182),(0x111b3,0x111bf),(0x111ce,0x111cf),
   (0x1122c,0x11234),(0x11237,0x11237),(0x1123e,0x1123e),(0x11241,0x11241),(0x112df,0x112e8),
   (0x11300,0x11303),(0x1133e,0x11344),(0x11347,0x11348),(0x1134b,0x1134c),(0x11357,0x11357),
   (0x11362,0x11363),(0x11435,0x11441),(0x11443,0x11445),(0x114b0,0x114c1),(0x115af,0x115b5),
   (0x115b8,0x115be),(0x115dc,0x115dd),(0x11630,0x1163e),(0x11640,0x11640),(0x116ab,0x116b5),
   (0x1171d,0x1172a),(0x1182c,0x11838),(0x11930,0x11935),(0x11937,0x11938),(0x1193b,0x1193c),
   (0x11940,0x11940),(0x11942,0x11942),(0x119d1,0x119d7),(0x119da,0x119df),(0x119e4,0x119e4),
   (0x11a01,0x11a0a),(0x11a35,0x11a39),(0x11a3b,0x11a3e),(0x11a51,0x11a5b),(0x11a8a,0x11a97),
   (0x11c2f,0x11c36),(0x11c38,0x11c3e),(0x11c92,0x11ca7),(0x11ca9,0x11cb6),(0x11d31,0x11d36),
   (0x11d3a,0x11d3a),(0x11d3c,0x11d3d),(0x11d3f,0x11d41),(0x11d43,0x11d43),(0x11d47,0x11d47),
   (0x11d8a,0x11d8e),(0x11d90,0x11d91),(0x11d93,0x11d96),(0x11ef3,0x11ef6),(0x11f00,0x11f01),
   (0x11f03,0x11f03),(0x11f34,0x11f3a),(0x11f3e,0x11f40),(0x16f4f,0x16f4f),(0x16f51,0x16f87),
   (0x16f8f,0x16f92),(0x16ff0,0x16ff1),(0x1bc9e,0x1bc9e),(0x1e000,0x1e006),(0x1e008,0x1e018),
   (0x1e01b,0x1e021),(0x1e023,0x1e024),(0x1e026,0x1e02a),(0x1e08f,0x1e08f),(0x1e947,0x1e947),
   (0x1f130,0x1f149),(0x1f150,0x1f169),(0x1f170,0x1f189)]

def otherDefaultIgnorable : Ranges :=
  [(0x34f,0x34f),(0x115f,0x1160),(0x17b4,0x17b5),(0x2065,0x2065),(0x3164,0x3164),(0xffa0,0xffa0),
   (0xfff0,0xfff8),(0xe0000,0xe0000),(0xe0002,0xe001f),(0xe0080,0xe00ff),(0xe01f0,0xe0fff)]

def otherGraphemeExtend : Ranges :=
  [(0x9be,0x9be),(0x9d7,0x9d7),(0xb3e,0xb3e),(0xb57,0xb57),(0xbbe,0xbbe),(0xbd7,0xbd7),(0xcc2,0xcc2),
   (0xcd5,0xcd6),(0xd3e,0xd3e),(0xd57,0xd57),(0xdcf,0xdcf),(0xddf,0xddf),(0x1b35,0x1b35),(0x200c,0x200c),
   (0x302e,0x302f),(0xff9e,0xff9f),(0x1133e,0x1133e),(0x11357,0x11357),(0x114b0,0x114b0),(0x114bd,0x114bd),
   (0x115af,0x115af),(0x11930,0x11930),(0x1d165,0x1d165),(0x1d16e,0x1d172),(0xe0020,0xe007f)]

def otherIdContinue : Ranges := [(0xb7,0xb7),(0x387,0x387),(0x1369,0x1371),(0x19da,0x19da)]

def otherIdStart : Ranges := [(0x1885,0x1886),(0x2118,0x2118),(0x212e,0x212e),(0x309b,0x309c)]

def otherLowercase : Ranges :=
  [(0xaa,0xaa),(0xba,0xba),(0x2b0,0x2b8),(0x2c0,0x2c1),(0x2e0,0x2e4),(0x345,0x345),(0x37a,0x37a),
   (0x10fc,0x10fc),(0x1d2c,0x1d6a),(0x1d78,0x1d78),(0x1d9b,0x1dbf),(0x2071,0x2071),(0x207f,0x207f),
   (0x2090,0x209c),(0x2170,0x217f),(0x24d0,0x24e9),(0x2c7c,0x2c7d),(0xa69c,0xa69d),(0xa770,0xa770),
   (0xa7f2,0xa7f4),(0xa7f8,0xa7f9),(0xab5c,0xab5f),(0xab69,0xab69),(0x10780,0x10780),(0x10783,0x10785),
   (0x10787,0x107b0),(0x107b2,0x107ba),(0x1e030,0x1e06d)]

def otherMath : Ranges :=
  [(0x5e,0x5e),(0x3d0,0x3d2),(0x3d5,0x3d5),(0x3f0,0x3f1),(0x3f4,0x3f5),(0x2016,0x2016),(0x2032,0x2034),
   (0x2040,0x2040),(0x2061,0x2064),(0x207d,0x207e),(0x208d,0x208e),(0x20d0,0x20dc),(0x20e1,0x20e1),
   (0x20e5,0x20e6),(0x20eb,0x20ef),(0x2102,0x2102),(0x2107,0x2107),(0x210a,0x2113),(0x2115,0x2115),
   (0x2119,0x211d),(0x2124,0x2124),(0x2128,0x2129),(0x212c,0x212d),(0x212f,0x2131),(0x2133,0x2138),
   (0x213c,0x213f),(0x2145,0x2149),(0x2195,0x2199),(0x219c,0x219f),(0x21a1,0x21a2),(0x21a4,0x21a5),
   (0x21a7,0x21a7),(0x21a9,0x21ad),(0x21b0,0x21b1),(0x21b6,0x21b7),(0x21bc,0x21cd),(0x21d0,0x21d1),
   (0x21d3,0x21d3),(0x21d5,0x21db),(0x21dd,0x21dd),(0x21e4,0x21e5),(0x2308,0x230b),(0x23b4,0x23b5),
   (0x23b7,0x23b7),(0x23d0,0x23d0),(0x23e2,0x23e2),(0x25a0,0x25a1),(0x25ae,0x25b6),(0x25bc,0x25c0),
   (0x25c6,0x25c7),(0x25ca,0x25cb),(0x25cf,0x25d3),(0x25e2,0x25e2),(0x25e4,0x25e4),(0x25e7,0x25ec),
   (0x2605,0x2606),(0x2640,0x2640),(0x2642,0x2642),(0x2660,0x2663),(0x266d,0x266e),(0x27c5,0x27c6),
   (0x27e6,0x27ef),(0x2983,0x2998),(0x29d8,0x29db),(0x29fc,0x29fd),(0xfe61,0xfe61),(0xfe63,0xfe63),
   (0xfe68,0xfe68),(0xff3c,0xff3c),(0xff3e,0xff3e),(0x1d400,0x1d454),(0x1d456,0x1d49c),(0x1d49e,0x1d49f),
   (0x1d4a2,0x1d4a2),(0x1d4a5,0x1d4a6),(0x1d4a9,0x1d4ac),(0x1d4ae,0x1d4b9),(0x1d4bb,0x1d4bb),
   (0x1d4bd,0x1d4c3),(0x1d4c5,0x1d505),(0x1d507,0x1d50a),(0x1d50d,0x1d514),(0x1d516,0x1d51c),
   (0x1d51e,0x1d539),(0x1d53b,0x1d53e),(0x1d540,0x1d544),(0x1d546,0x1d546),(0x1d54a,0x1d550),
   (0x1d552,0x1d6a5),(0x1d6a8,0x1d6c0),(0x1d6c2,0x1d6da),(0x1d6dc,0x1d6fa),(0x1d6fc,0x1d714),
   (0x1d716,0x1d734),(0x1d736,0x1d74e),(0x1d750,0x1d76e),(0x1d770,0x1d788),(0x1d78a,0x1d7a8),
   (0x1d7aa,0x1d7c2),(0x1d7c4,0x1d7cb),(0x1d7ce,0x1d7ff),(0x1ee00,0x1ee03),(0x1ee05,0x1ee1f),
   (0x1ee21,0x1ee22),(0x1ee24,0x1ee24),(0x1ee27,0x1ee27),(0x1ee29,0x1ee32),(0x1ee34,0x1ee37),
   (0x1ee39,0x1ee39),(0x1ee3b,0x1ee3b),(0x1ee42,0x1ee42),(0x1ee47,0x1ee47),(0x1ee49,0x1ee49),
   (0x1ee4b,0x1ee4b),(0x1ee4d,0x1ee4f),(0x1ee51,0x1ee52),(0x1ee54,0x1ee54),(0x1ee57,0x1ee57),
   (0x1ee59,0x1ee59),(0x1ee5b,0x1ee5b),(0x1ee5d,0x1ee5d),(0x1ee5f,0x1ee5f),(0x1ee61,0x1ee62),
   (0x1ee64,0x1ee64),(0x1ee67,0x1ee6a),(0x1ee6c,0x1ee72),(0x1ee74,0x1ee77),(0x1ee79,0x1ee7c),
   (0x1ee7e,0x1ee7e),(0x1ee80,0x1ee89),(0x1ee8b,0x1ee9b),(0x1eea1,0x1eea3),(0x1eea5,0x1eea9),
   (0x1eeab,0x1eebb)]

def otherUppercase : Ranges :=
  [(0x2160,0x216f),(0x24b6,0x24cf),(0x1f130,0x1f149),(0x1f150,0x1f169),(0x1f170,0x1f189)]

def patternSyntax : Ranges :=
  [(0x21,0x2f),(0x3a,0x40),(0x5b,0x5e),(0x60,0x60),(0x7b,0x7e),(0xa1,0xa7),(0xa9,0xa9),(0xab,0xac),
   (0xae,0xae),(0xb0,0xb1),(0xb6,0xb6),(0xbb,0xbb),(0xbf,0xbf),(0xd7,0xd7),(0xf7,0xf7),(0x2010,0x2027),
   (0x2030,0x203e),(0x2041,0x2053),(0x2055,0x205e),(0x2190,0x245f),(0x2500,0x2775),(0x2794,0x2bff),
   (0x2e00,0x2e7f),(0x3001,0x3003),(0x3008,0x3020),(0x3030,0x3030),(0xfd3e,0xfd3f),(0xfe45,0xfe46)]

def patternWhiteSpace : Ranges := [(0x9,0xd),(0x20,0x20),(0x85,0x85),(0x200e,0x200f),(0x2028,0x2029)]

def prependedMark : Ranges :=
  [(0x600,0x605),(0x6dd,0x6dd),(0x70f,0x70f),(0x890,0x891),(0x8e2,0x8e2),(0x110bd,0x110bd),
   (0x110cd,0x110cd)]

def quotationMark : Ranges :=
  [(0x22,0x22),(0x27,0x27),(0xab,0xab),(0xbb,0xbb),(0x2018,0x201f),(0x2039,0x203a),(0x2e42,0x2e42),
   (0x300c,0x300f),(0x301d,0x301f),(0xfe41,0xfe44),(0xff02,0xff02),(0xff07,0xff07),(0xff62,0xff63)]

def radical : Ranges := [(0x2e80,0x2e99),(0x2e9b,0x2ef3),(0x2f00,0x2fd5)]

def regionalIndicator : Ranges := [(0x1f1e6,0x1f1ff)]

def sentenceTerminal : Ranges :=
  [(0x21,0x21),(0x2e,0x2e),(0x3f,0x3f),(0x589,0x589),(0x61d,0x61f),(0x6d4,0x6d4),(0x700,0x702),
   (0x7f9,0x7f9),(0x837,0x837),(0x839,0x839),(0x83d,0x83e),(0x964,0x965),(0x104a,0x104b),(0x1362,0x1362),
   (0x1367,0x1368),(0x166e,0x166e),(0x1735,0x1736),(0x1803,0x1803),(0x1809,0x1809),(0x1944,0x1945),
   (0x1aa8,0x1aab),(0x1b5a,0x1b5b),(0x1b5e,0x1b5f),(0x1b7d,0x1b7e),(0x1c3b,0x1c3c),(0x1c7e,0x1c7f),
   (0x203c,0x203d),(0x2047,0x2049),(0x2e2e,0x2e2e),(0x2e3c,0x2e3c),(0x2e53,0x2e54),(0x3002,0x3002),
   (0xa4ff,0xa4ff),(0xa60e,0xa60f),(0xa6f3,0xa6f3),(0xa6f7,0xa6f7),(0xa876,0xa877),(0xa8ce,0xa8cf),
   (0xa92f,0xa92f),(0xa9c8,0xa9c9),(0xaa5d,0xaa5f),(0xaaf0,0xaaf1),(0xabeb,0xabeb),(0xfe52,0xfe52),
   (0xfe56,0xfe57),(0xff01,0xff01),(0xff0e,0xff0e),(0xff1f,0xff1f),(0xff61,0xff61),(0x10a56,0x10a57),
   (0x10f55,0x10f59),(0x10f86,0x10f89),(0x11047,0x11048),(0x110be,0x110c1),(0x11141,0x11143),
   (0x111c5,0x111c6),(0x111cd,0x111cd),(0x111de,0x111df),(0x11238,0x11239),(0x1123b,0x1123c),
   (0x112a9,0x112a9),(0x1144b,0x1144c),(0x115c2,0x115c3),(0x115c9,0x115d7),(0x11641,0x11642),
   (0x1173c,0x1173e),(0x11944,0x11944),(0x11946,0x11946),(0x11a42,0x11a43),(0x11a9b,0x11a9c),
   (0x11c41,0x11c42),(0x11ef7,0x11ef8),(0x11f43,0x11f44),(0x16a6e,0x16a6f),(0x16af5,0x16af5),
   (0x16b37,0x16b38),(0x16b44,0x16b44),(0x16e98,0x16e98),(0x1bc9f,0x1bc9f),(0x1da88,0x1da88)]

def softDotted : Ranges :=
  [(0x69,0x6a),(0x12f,0x12f),(0x249,0x249),(0x268,0x268),(0x29d,0x29d),(0x2b2,0x2b2),(0x3f3,0x3f3),
   (0x456,0x456),(0x458,0x458),(0x1d62,0x1d62),(0x1d96,0x1d96),(0x1da4,0x1da4),(0x1da8,0x1da8),
   (0x1e2d,0x1e2d),(0x1ecb,0x1ecb),(0x2071,0x2071),(0x2148,0x2149),(0x2c7c,0x2c7c),(0x1d422,0x1d423),
   (0x1d456,0x1d457),(0x1d48a,0x1d48b),(0x1d4be,0x1d4bf),(0x1d4f2,0x1d4f3),(0x1d526,0x1d527),
   (0x1d55a,0x1d55b),(0x1d58e,0x1d58f),(0x1d5c2,0x1d5c3),(0x1d5f6,0x1d5f7),(0x1d62a,0x1d62b),
   (0x1d65e,0x1d65f),(0x1d692,0x1d693),(0x1df1a,0x1df1a),(0x1e04c,0x1e04d),(0x1e068,0x1e068)]

def terminalPunctuation : Ranges :=
  [(0x21,0x21),(0x2c,0x2c),(0x2e,0x2e),(0x3a,0x3b),(0x3f,0x3f),(0x37e,0x37e),(0x387,0x387),(0x589,0x589),
   (0x5c3,0x5c3),(0x60c,0x60c),(0x61b,0x61b),(0x61d,0x61f),(0x6d4,0x6d4),(0x700,0x70a),(0x70c,0x70c),
   (0x7f8,0x7f9),(0x830,0x83e),(0x85e,0x85e),(0x964,0x965),(0xe5a,0xe5b),(0xf08,0xf08),(0xf0d,0xf12),
   (0x104a,0x104b),(0x1361,0x1368),(0x166e,0x166e),(0x16eb,0x16ed),(0x1735,0x1736),(0x17d4,0x17d6),
   (0x17da,0x17da),(0x1802,0x1805),(0x1808,0x1809),(0x1944,0x1945),(0x1aa8,0x1aab),(0x1b5a,0x1b5b),
   (0x1b5d,0x1b5f),(0x1b7d,0x1b7e),(0x1c3b,0x1c3f),(0x1c7e,0x1c7f),(0x203c,0x203d),(0x2047,0x2049),
   (0x2e2e,0x2e2e),(0x2e3c,0x2e3c),(0x2e41,0x2e41),(0x2e4c,0x2e4c),(0x2e4e,0x2e4f),(0x2e53,0x2e54),
   (0x3001,0x3002),(0xa4fe,0xa4ff),(0xa60d,0xa60f),(0xa6f3,0xa6f7),(0xa876,0xa877),(0xa8ce,0xa8cf),
   (0xa92f,0xa92f),(0xa9c7,0xa9c9),(0xaa5d,0xaa5f),(0xaadf,0xaadf),(0xaaf0,0xaaf1),(0xabeb,0xabeb),
   (0xfe50,0xfe52),(0xfe54,0xfe57),(0xff01,0xff01),(0xff0c,0xff0c),(0xff0e,0xff0e),(0xff1a,0xff1b),
   (0xff1f,0xff1f),(0xff61,0xff61),(0xff64,0xff64),(0x1039f,0x1039f),(0x103d0,0x103d0),(0x10857,0x10857),
   (0x1091f,0x1091f),(0x10a56,0x10a57),(0x10af0,0x10af5),(0x10b3a,0x10b3f),(0x10b99,0x10b9c),
   (0x10f55,0x10f59),(0x10f86,0x10f89),(0x11047,0x1104d),(0x110be,0x110c1),(0x11141,0x11143),
   (0x111c5,0x111c6),(0x111cd,0x111cd),(0x111de,0x111df),(0x11238,0x1123c),(0x112a9,0x112a9),
   (0x1144b,0x1144d),(0x1145a,0x1145b),(0x115c2,0x115c5),(0x115c9,0x115d7),(0x11641,0x11642),
   (0x1173c,0x1173e),(0x11944,0x11944),(0x11946,0x11946),(0x11a42,0x11a43),(0x11a9b,0x11a9c),
   (0x11aa1,0x11aa2),(0x11c41,0x11c43),(0x11c71,0x11c71),(0x11ef7,0x11ef8),(0x11f43,0x11f44),
   (0x12470,0x12474),(0x16a6e,0x16a6f),(0x16af5,0x16af5),(0x16b37,0x16b39),(0x16b44,0x16b44),
   (0x16e97,0x16e98),(0x1bc9f,0x1bc9f),(0x1da87,0x1da8a)]

def unifiedIdeograph : Ranges :=
  [(0x3400,0x4dbf),(0x4e00,0x9fff),(0xfa0e,0xfa0f),(0xfa11,0xfa11),(0xfa13,0xfa14),(0xfa1f,0xfa1f),
   (0xfa21,0xfa21),(0xfa23,0xfa24),(0xfa27,0xfa29),(0x20000,0x2a6df),(0x2a700,0x2b739),(0x2b740,0x2b81d),
   (0x2b820,0x2cea1),(0x2ceb0,0x2ebe0),(0x30000,0x3134a),(0x31350,0x323af)]

/-- Characters of identifiers that compatibility forms would break. -/
def unstableInIds : Ranges :=
  [(0x37a,0x37a),(0x309b,0x309c),(0xfc5e,0xfc63),(0xfdfa,0xfdfb),(0xfe70,0xfe70),(0xfe72,0xfe72),
   (0xfe74,0xfe74),(0xfe76,0xfe76),(0xfe78,0xfe78),(0xfe7a,0xfe7a),(0xfe7c,0xfe7c),(0xfe7e,0xfe7e)]

/-- Characters that begin identifiers but not once they are in a compatibility form. -/
def unstableAtIdStart : Ranges :=
  [(0x37a,0x37a),(0xe33,0xe33),(0xeb3,0xeb3),(0x309b,0x309c),(0xfc5e,0xfc63),(0xfdfa,0xfdfb),
   (0xfe70,0xfe70),(0xfe72,0xfe72),(0xfe74,0xfe74),(0xfe76,0xfe76),(0xfe78,0xfe78),(0xfe7a,0xfe7a),
   (0xfe7c,0xfe7c),(0xfe7e,0xfe7e),(0xff9e,0xff9f)]

def variationSelector : Ranges := [(0x180b,0x180d),(0x180f,0x180f),(0xfe00,0xfe0f),(0xe0100,0xe01ef)]

end DnsPolicy.Unicode
