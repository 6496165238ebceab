import RegexInference.Unicode.CodeSet

/-!
# Simple case folding

Characters that agree up to case form a small ring: `K`, `k` and the Kelvin sign, or `Σ`, `σ` and
`ς`.  The table gives for every character of such a ring the next one, in increasing order and
then back to the smallest.  A set is closed under case by adding every character whose ring meets
it.
-/

namespace RegexInference.Unicode

/-- How the characters of a run lead on to the next character of their ring. -/
inductive CaseStep where
  /-- Every character leads to the one this far away. -/
  | shift (distance : Int)
  /-- The run is a sequence of rings of two neighbours. -/
  | pairs

/-- A run of consecutive characters that lead on in the same way. -/
structure CaseRun where
  first : Nat
  last : Nat
  step : CaseStep

/-- The next character of the ring of a member of the run. -/
def CaseRun.next (run : CaseRun) (code : Nat) : Nat :=
  match run.step with
  | .shift distance => (Int.ofNat code + distance).toNat
  | .pairs => if (code - run.first) % 2 == 0 then code + 1 else code - 1

set_option maxRecDepth 20000 in
/-- All characters that have case variants, in increasing order. -/
def caseRuns : Array CaseRun := #[
  ⟨0x41, 0x5a, .shift 32⟩, ⟨0x61, 0x6a, .shift (-32)⟩, ⟨0x6b, 0x6b, .shift 8383⟩,
  ⟨0x6c, 0x72, .shift (-32)⟩, ⟨0x73, 0x73, .shift 268⟩, ⟨0x74, 0x7a, .shift (-32)⟩,
  ⟨0xb5, 0xb5, .shift 743⟩, ⟨0xc0, 0xd6, .shift 32⟩, ⟨0xd8, 0xde, .shift 32⟩,
  ⟨0xdf, 0xdf, .shift 7615⟩, ⟨0xe0, 0xe4, .shift (-32)⟩, ⟨0xe5, 0xe5, .shift 8262⟩,
  ⟨0xe6, 0xf6, .shift (-32)⟩, ⟨0xf8, 0xfe, .shift (-32)⟩, ⟨0xff, 0xff, .shift 121⟩,
  ⟨0x100, 0x12f, .pairs⟩, ⟨0x132, 0x137, .pairs⟩, ⟨0x139, 0x148, .pairs⟩, ⟨0x14a, 0x177, .pairs⟩,
  ⟨0x178, 0x178, .shift (-121)⟩, ⟨0x179, 0x17e, .pairs⟩, ⟨0x17f, 0x17f, .shift (-300)⟩,
  ⟨0x180, 0x180, .shift 195⟩, ⟨0x181, 0x181, .shift 210⟩, ⟨0x182, 0x185, .pairs⟩,
  ⟨0x186, 0x186, .shift 206⟩, ⟨0x187, 0x188, .pairs⟩, ⟨0x189, 0x18a, .shift 205⟩,
  ⟨0x18b, 0x18c, .pairs⟩, ⟨0x18e, 0x18e, .shift 79⟩, ⟨0x18f, 0x18f, .shift 202⟩,
  ⟨0x190, 0x190, .shift 203⟩, ⟨0x191, 0x192, .pairs⟩, ⟨0x193, 0x193, .shift 205⟩,
  ⟨0x194, 0x194, .shift 207⟩, ⟨0x195, 0x195, .shift 97⟩, ⟨0x196, 0x196, .shift 211⟩,
  ⟨0x197, 0x197, .shift 209⟩, ⟨0x198, 0x199, .pairs⟩, ⟨0x19a, 0x19a, .shift 163⟩,
  ⟨0x19b, 0x19b, .shift 42561⟩, ⟨0x19c, 0x19c, .shift 211⟩, ⟨0x19d, 0x19d, .shift 213⟩,
  ⟨0x19e, 0x19e, .shift 130⟩, ⟨0x19f, 0x19f, .shift 214⟩, ⟨0x1a0, 0x1a5, .pairs⟩,
  ⟨0x1a6, 0x1a6, .shift 218⟩, ⟨0x1a7, 0x1a8, .pairs⟩, ⟨0x1a9, 0x1a9, .shift 218⟩,
  ⟨0x1ac, 0x1ad, .pairs⟩, ⟨0x1ae, 0x1ae, .shift 218⟩, ⟨0x1af, 0x1b0, .pairs⟩,
  ⟨0x1b1, 0x1b2, .shift 217⟩, ⟨0x1b3, 0x1b6, .pairs⟩, ⟨0x1b7, 0x1b7, .shift 219⟩,
  ⟨0x1b8, 0x1b9, .pairs⟩, ⟨0x1bc, 0x1bd, .pairs⟩, ⟨0x1bf, 0x1bf, .shift 56⟩,
  ⟨0x1c4, 0x1c5, .shift 1⟩, ⟨0x1c6, 0x1c6, .shift (-2)⟩, ⟨0x1c7, 0x1c8, .shift 1⟩,
  ⟨0x1c9, 0x1c9, .shift (-2)⟩, ⟨0x1ca, 0x1cb, .shift 1⟩, ⟨0x1cc, 0x1cc, .shift (-2)⟩,
  ⟨0x1cd, 0x1dc, .pairs⟩, ⟨0x1dd, 0x1dd, .shift (-79)⟩, ⟨0x1de, 0x1ef, .pairs⟩,
  ⟨0x1f1, 0x1f2, .shift 1⟩, ⟨0x1f3, 0x1f3, .shift (-2)⟩, ⟨0x1f4, 0x1f5, .pairs⟩,
  ⟨0x1f6, 0x1f6, .shift (-97)⟩, ⟨0x1f7, 0x1f7, .shift (-56)⟩, ⟨0x1f8, 0x21f, .pairs⟩,
  ⟨0x220, 0x220, .shift (-130)⟩, ⟨0x222, 0x233, .pairs⟩, ⟨0x23a, 0x23a, .shift 10795⟩,
  ⟨0x23b, 0x23c, .pairs⟩, ⟨0x23d, 0x23d, .shift (-163)⟩, ⟨0x23e, 0x23e, .shift 10792⟩,
  ⟨0x23f, 0x240, .shift 10815⟩, ⟨0x241, 0x242, .pairs⟩, ⟨0x243, 0x243, .shift (-195)⟩,
  ⟨0x244, 0x244, .shift 69⟩, ⟨0x245, 0x245, .shift 71⟩, ⟨0x246, 0x24f, .pairs⟩,
  ⟨0x250, 0x250, .shift 10783⟩, ⟨0x251, 0x251, .shift 10780⟩, ⟨0x252, 0x252, .shift 10782⟩,
  ⟨0x253, 0x253, .shift (-210)⟩, ⟨0x254, 0x254, .shift (-206)⟩, ⟨0x256, 0x257, .shift (-205)⟩,
  ⟨0x259, 0x259, .shift (-202)⟩, ⟨0x25b, 0x25b, .shift (-203)⟩, ⟨0x25c, 0x25c, .shift 42319⟩,
  ⟨0x260, 0x260, .shift (-205)⟩, ⟨0x261, 0x261, .shift 42315⟩, ⟨0x263, 0x263, .shift (-207)⟩,
  ⟨0x264, 0x264, .shift 42343⟩, ⟨0x265, 0x265, .shift 42280⟩, ⟨0x266, 0x266, .shift 42308⟩,
  ⟨0x268, 0x268, .shift (-209)⟩, ⟨0x269, 0x269, .shift (-211)⟩, ⟨0x26a, 0x26a, .shift 42308⟩,
  ⟨0x26b, 0x26b, .shift 10743⟩, ⟨0x26c, 0x26c, .shift 42305⟩, ⟨0x26f, 0x26f, .shift (-211)⟩,
  ⟨0x271, 0x271, .shift 10749⟩, ⟨0x272, 0x272, .shift (-213)⟩, ⟨0x275, 0x275, .shift (-214)⟩,
  ⟨0x27d, 0x27d, .shift 10727⟩, ⟨0x280, 0x280, .shift (-218)⟩, ⟨0x282, 0x282, .shift 42307⟩,
  ⟨0x283, 0x283, .shift (-218)⟩, ⟨0x287, 0x287, .shift 42282⟩, ⟨0x288, 0x288, .shift (-218)⟩,
  ⟨0x289, 0x289, .shift (-69)⟩, ⟨0x28a, 0x28b, .shift (-217)⟩, ⟨0x28c, 0x28c, .shift (-71)⟩,
  ⟨0x292, 0x292, .shift (-219)⟩, ⟨0x29d, 0x29d, .shift 42261⟩, ⟨0x29e, 0x29e, .shift 42258⟩,
  ⟨0x345, 0x345, .shift 84⟩, ⟨0x370, 0x373, .pairs⟩, ⟨0x376, 0x377, .pairs⟩,
  ⟨0x37b, 0x37d, .shift 130⟩, ⟨0x37f, 0x37f, .shift 116⟩, ⟨0x386, 0x386, .shift 38⟩,
  ⟨0x388, 0x38a, .shift 37⟩, ⟨0x38c, 0x38c, .shift 64⟩, ⟨0x38e, 0x38f, .shift 63⟩,
  ⟨0x390, 0x390, .shift 7235⟩, ⟨0x391, 0x3a1, .shift 32⟩, ⟨0x3a3, 0x3a3, .shift 31⟩,
  ⟨0x3a4, 0x3ab, .shift 32⟩, ⟨0x3ac, 0x3ac, .shift (-38)⟩, ⟨0x3ad, 0x3af, .shift (-37)⟩,
  ⟨0x3b0, 0x3b0, .shift 7219⟩, ⟨0x3b1, 0x3b1, .shift (-32)⟩, ⟨0x3b2, 0x3b2, .shift 30⟩,
  ⟨0x3b3, 0x3b4, .shift (-32)⟩, ⟨0x3b5, 0x3b5, .shift 64⟩, ⟨0x3b6, 0x3b7, .shift (-32)⟩,
  ⟨0x3b8, 0x3b8, .shift 25⟩, ⟨0x3b9, 0x3b9, .shift 7173⟩, ⟨0x3ba, 0x3ba, .shift 54⟩,
  ⟨0x3bb, 0x3bb, .shift (-32)⟩, ⟨0x3bc, 0x3bc, .shift (-775)⟩, ⟨0x3bd, 0x3bf, .shift (-32)⟩,
  ⟨0x3c0, 0x3c0, .shift 22⟩, ⟨0x3c1, 0x3c1, .shift 48⟩, ⟨0x3c2, 0x3c2, .shift 1⟩,
  ⟨0x3c3, 0x3c5, .shift (-32)⟩, ⟨0x3c6, 0x3c6, .shift 15⟩, ⟨0x3c7, 0x3c8, .shift (-32)⟩,
  ⟨0x3c9, 0x3c9, .shift 7517⟩, ⟨0x3ca, 0x3cb, .shift (-32)⟩, ⟨0x3cc, 0x3cc, .shift (-64)⟩,
  ⟨0x3cd, 0x3ce, .shift (-63)⟩, ⟨0x3cf, 0x3cf, .shift 8⟩, ⟨0x3d0, 0x3d0, .shift (-62)⟩,
  ⟨0x3d1, 0x3d1, .shift 35⟩, ⟨0x3d5, 0x3d5, .shift (-47)⟩, ⟨0x3d6, 0x3d6, .shift (-54)⟩,
  ⟨0x3d7, 0x3d7, .shift (-8)⟩, ⟨0x3d8, 0x3ef, .pairs⟩, ⟨0x3f0, 0x3f0, .shift (-86)⟩,
  ⟨0x3f1, 0x3f1, .shift (-80)⟩, ⟨0x3f2, 0x3f2, .shift 7⟩, ⟨0x3f3, 0x3f3, .shift (-116)⟩,
  ⟨0x3f4, 0x3f4, .shift (-92)⟩, ⟨0x3f5, 0x3f5, .shift (-96)⟩, ⟨0x3f7, 0x3f8, .pairs⟩,
  ⟨0x3f9, 0x3f9, .shift (-7)⟩, ⟨0x3fa, 0x3fb, .pairs⟩, ⟨0x3fd, 0x3ff, .shift (-130)⟩,
  ⟨0x400, 0x40f, .shift 80⟩, ⟨0x410, 0x42f, .shift 32⟩, ⟨0x430, 0x431, .shift (-32)⟩,
  ⟨0x432, 0x432, .shift 6222⟩, ⟨0x433, 0x433, .shift (-32)⟩, ⟨0x434, 0x434, .shift 6221⟩,
  ⟨0x435, 0x43d, .shift (-32)⟩, ⟨0x43e, 0x43e, .shift 6212⟩, ⟨0x43f, 0x440, .shift (-32)⟩,
  ⟨0x441, 0x442, .shift 6210⟩, ⟨0x443, 0x449, .shift (-32)⟩, ⟨0x44a, 0x44a, .shift 6204⟩,
  ⟨0x44b, 0x44f, .shift (-32)⟩, ⟨0x450, 0x45f, .shift (-80)⟩, ⟨0x460, 0x461, .pairs⟩,
  ⟨0x462, 0x462, .shift 1⟩, ⟨0x463, 0x463, .shift 6180⟩, ⟨0x464, 0x481, .pairs⟩,
  ⟨0x48a, 0x4bf, .pairs⟩, ⟨0x4c0, 0x4c0, .shift 15⟩, ⟨0x4c1, 0x4ce, .pairs⟩,
  ⟨0x4cf, 0x4cf, .shift (-15)⟩, ⟨0x4d0, 0x52f, .pairs⟩, ⟨0x531, 0x556, .shift 48⟩,
  ⟨0x561, 0x586, .shift (-48)⟩, ⟨0x10a0, 0x10c5, .shift 7264⟩, ⟨0x10c7, 0x10c7, .shift 7264⟩,
  ⟨0x10cd, 0x10cd, .shift 7264⟩, ⟨0x10d0, 0x10fa, .shift 3008⟩, ⟨0x10fd, 0x10ff, .shift 3008⟩,
  ⟨0x13a0, 0x13ef, .shift 38864⟩, ⟨0x13f0, 0x13f5, .shift 8⟩, ⟨0x13f8, 0x13fd, .shift (-8)⟩,
  ⟨0x1c80, 0x1c80, .shift (-6254)⟩, ⟨0x1c81, 0x1c81, .shift (-6253)⟩,
  ⟨0x1c82, 0x1c82, .shift (-6244)⟩, ⟨0x1c83, 0x1c83, .shift (-6242)⟩, ⟨0x1c84, 0x1c84, .shift 1⟩,
  ⟨0x1c85, 0x1c85, .shift (-6243)⟩, ⟨0x1c86, 0x1c86, .shift (-6236)⟩,
  ⟨0x1c87, 0x1c87, .shift (-6181)⟩, ⟨0x1c88, 0x1c88, .shift 35266⟩, ⟨0x1c89, 0x1c8a, .pairs⟩,
  ⟨0x1c90, 0x1cba, .shift (-3008)⟩, ⟨0x1cbd, 0x1cbf, .shift (-3008)⟩,
  ⟨0x1d79, 0x1d79, .shift 35332⟩, ⟨0x1d7d, 0x1d7d, .shift 3814⟩, ⟨0x1d8e, 0x1d8e, .shift 35384⟩,
  ⟨0x1e00, 0x1e5f, .pairs⟩, ⟨0x1e60, 0x1e60, .shift 1⟩, ⟨0x1e61, 0x1e61, .shift 58⟩,
  ⟨0x1e62, 0x1e95, .pairs⟩, ⟨0x1e9b, 0x1e9b, .shift (-59)⟩, ⟨0x1e9e, 0x1e9e, .shift (-7615)⟩,
  ⟨0x1ea0, 0x1eff, .pairs⟩, ⟨0x1f00, 0x1f07, .shift 8⟩, ⟨0x1f08, 0x1f0f, .shift (-8)⟩,
  ⟨0x1f10, 0x1f15, .shift 8⟩, ⟨0x1f18, 0x1f1d, .shift (-8)⟩, ⟨0x1f20, 0x1f27, .shift 8⟩,
  ⟨0x1f28, 0x1f2f, .shift (-8)⟩, ⟨0x1f30, 0x1f37, .shift 8⟩, ⟨0x1f38, 0x1f3f, .shift (-8)⟩,
  ⟨0x1f40, 0x1f45, .shift 8⟩, ⟨0x1f48, 0x1f4d, .shift (-8)⟩, ⟨0x1f51, 0x1f51, .shift 8⟩,
  ⟨0x1f53, 0x1f53, .shift 8⟩, ⟨0x1f55, 0x1f55, .shift 8⟩, ⟨0x1f57, 0x1f57, .shift 8⟩,
  ⟨0x1f59, 0x1f59, .shift (-8)⟩, ⟨0x1f5b, 0x1f5b, .shift (-8)⟩, ⟨0x1f5d, 0x1f5d, .shift (-8)⟩,
  ⟨0x1f5f, 0x1f5f, .shift (-8)⟩, ⟨0x1f60, 0x1f67, .shift 8⟩, ⟨0x1f68, 0x1f6f, .shift (-8)⟩,
  ⟨0x1f70, 0x1f71, .shift 74⟩, ⟨0x1f72, 0x1f75, .shift 86⟩, ⟨0x1f76, 0x1f77, .shift 100⟩,
  ⟨0x1f78, 0x1f79, .shift 128⟩, ⟨0x1f7a, 0x1f7b, .shift 112⟩, ⟨0x1f7c, 0x1f7d, .shift 126⟩,
  ⟨0x1f80, 0x1f87, .shift 8⟩, ⟨0x1f88, 0x1f8f, .shift (-8)⟩, ⟨0x1f90, 0x1f97, .shift 8⟩,
  ⟨0x1f98, 0x1f9f, .shift (-8)⟩, ⟨0x1fa0, 0x1fa7, .shift 8⟩, ⟨0x1fa8, 0x1faf, .shift (-8)⟩,
  ⟨0x1fb0, 0x1fb1, .shift 8⟩, ⟨0x1fb3, 0x1fb3, .shift 9⟩, ⟨0x1fb8, 0x1fb9, .shift (-8)⟩,
  ⟨0x1fba, 0x1fbb, .shift (-74)⟩, ⟨0x1fbc, 0x1fbc, .shift (-9)⟩, ⟨0x1fbe, 0x1fbe, .shift (-7289)⟩,
  ⟨0x1fc3, 0x1fc3, .shift 9⟩, ⟨0x1fc8, 0x1fcb, .shift (-86)⟩, ⟨0x1fcc, 0x1fcc, .shift (-9)⟩,
  ⟨0x1fd0, 0x1fd1, .shift 8⟩, ⟨0x1fd3, 0x1fd3, .shift (-7235)⟩, ⟨0x1fd8, 0x1fd9, .shift (-8)⟩,
  ⟨0x1fda, 0x1fdb, .shift (-100)⟩, ⟨0x1fe0, 0x1fe1, .shift 8⟩, ⟨0x1fe3, 0x1fe3, .shift (-7219)⟩,
  ⟨0x1fe5, 0x1fe5, .shift 7⟩, ⟨0x1fe8, 0x1fe9, .shift (-8)⟩, ⟨0x1fea, 0x1feb, .shift (-112)⟩,
  ⟨0x1fec, 0x1fec, .shift (-7)⟩, ⟨0x1ff3, 0x1ff3, .shift 9⟩, ⟨0x1ff8, 0x1ff9, .shift (-128)⟩,
  ⟨0x1ffa, 0x1ffb, .shift (-126)⟩, ⟨0x1ffc, 0x1ffc, .shift (-9)⟩,
  ⟨0x2126, 0x2126, .shift (-7549)⟩, ⟨0x212a, 0x212a, .shift (-8415)⟩,
  ⟨0x212b, 0x212b, .shift (-8294)⟩, ⟨0x2132, 0x2132, .shift 28⟩, ⟨0x214e, 0x214e, .shift (-28)⟩,
  ⟨0x2160, 0x216f, .shift 16⟩, ⟨0x2170, 0x217f, .shift (-16)⟩, ⟨0x2183, 0x2184, .pairs⟩,
  ⟨0x24b6, 0x24cf, .shift 26⟩, ⟨0x24d0, 0x24e9, .shift (-26)⟩, ⟨0x2c00, 0x2c2f, .shift 48⟩,
  ⟨0x2c30, 0x2c5f, .shift (-48)⟩, ⟨0x2c60, 0x2c61, .pairs⟩, ⟨0x2c62, 0x2c62, .shift (-10743)⟩,
  ⟨0x2c63, 0x2c63, .shift (-3814)⟩, ⟨0x2c64, 0x2c64, .shift (-10727)⟩,
  ⟨0x2c65, 0x2c65, .shift (-10795)⟩, ⟨0x2c66, 0x2c66, .shift (-10792)⟩, ⟨0x2c67, 0x2c6c, .pairs⟩,
  ⟨0x2c6d, 0x2c6d, .shift (-10780)⟩, ⟨0x2c6e, 0x2c6e, .shift (-10749)⟩,
  ⟨0x2c6f, 0x2c6f, .shift (-10783)⟩, ⟨0x2c70, 0x2c70, .shift (-10782)⟩, ⟨0x2c72, 0x2c73, .pairs⟩,
  ⟨0x2c75, 0x2c76, .pairs⟩, ⟨0x2c7e, 0x2c7f, .shift (-10815)⟩, ⟨0x2c80, 0x2ce3, .pairs⟩,
  ⟨0x2ceb, 0x2cee, .pairs⟩, ⟨0x2cf2, 0x2cf3, .pairs⟩, ⟨0x2d00, 0x2d25, .shift (-7264)⟩,
  ⟨0x2d27, 0x2d27, .shift (-7264)⟩, ⟨0x2d2d, 0x2d2d, .shift (-7264)⟩, ⟨0xa640, 0xa649, .pairs⟩,
  ⟨0xa64a, 0xa64a, .shift 1⟩, ⟨0xa64b, 0xa64b, .shift (-35267)⟩, ⟨0xa64c, 0xa66d, .pairs⟩,
  ⟨0xa680, 0xa69b, .pairs⟩, ⟨0xa722, 0xa72f, .pairs⟩, ⟨0xa732, 0xa76f, .pairs⟩,
  ⟨0xa779, 0xa77c, .pairs⟩, ⟨0xa77d, 0xa77d, .shift (-35332)⟩, ⟨0xa77e, 0xa787, .pairs⟩,
  ⟨0xa78b, 0xa78c, .pairs⟩, ⟨0xa78d, 0xa78d, .shift (-42280)⟩, ⟨0xa790, 0xa793, .pairs⟩,
  ⟨0xa794, 0xa794, .shift 48⟩, ⟨0xa796, 0xa7a9, .pairs⟩, ⟨0xa7aa, 0xa7aa, .shift (-42308)⟩,
  ⟨0xa7ab, 0xa7ab, .shift (-42319)⟩, ⟨0xa7ac, 0xa7ac, .shift (-42315)⟩,
  ⟨0xa7ad, 0xa7ad, .shift (-42305)⟩, ⟨0xa7ae, 0xa7ae, .shift (-42308)⟩,
  ⟨0xa7b0, 0xa7b0, .shift (-42258)⟩, ⟨0xa7b1, 0xa7b1, .shift (-42282)⟩,
  ⟨0xa7b2, 0xa7b2, .shift (-42261)⟩, ⟨0xa7b3, 0xa7b3, .shift 928⟩, ⟨0xa7b4, 0xa7c3, .pairs⟩,
  ⟨0xa7c4, 0xa7c4, .shift (-48)⟩, ⟨0xa7c5, 0xa7c5, .shift (-42307)⟩,
  ⟨0xa7c6, 0xa7c6, .shift (-35384)⟩, ⟨0xa7c7, 0xa7ca, .pairs⟩, ⟨0xa7cb, 0xa7cb, .shift (-42343)⟩,
  ⟨0xa7cc, 0xa7cd, .pairs⟩, ⟨0xa7d0, 0xa7d1, .pairs⟩, ⟨0xa7d6, 0xa7db, .pairs⟩,
  ⟨0xa7dc, 0xa7dc, .shift (-42561)⟩, ⟨0xa7f5, 0xa7f6, .pairs⟩, ⟨0xab53, 0xab53, .shift (-928)⟩,
  ⟨0xab70, 0xabbf, .shift (-38864)⟩, ⟨0xfb05, 0xfb06, .pairs⟩, ⟨0xff21, 0xff3a, .shift 32⟩,
  ⟨0xff41, 0xff5a, .shift (-32)⟩, ⟨0x10400, 0x10427, .shift 40⟩, ⟨0x10428, 0x1044f, .shift (-40)⟩,
  ⟨0x104b0, 0x104d3, .shift 40⟩, ⟨0x104d8, 0x104fb, .shift (-40)⟩, ⟨0x10570, 0x1057a, .shift 39⟩,
  ⟨0x1057c, 0x1058a, .shift 39⟩, ⟨0x1058c, 0x10592, .shift 39⟩, ⟨0x10594, 0x10595, .shift 39⟩,
  ⟨0x10597, 0x105a1, .shift (-39)⟩, ⟨0x105a3, 0x105b1, .shift (-39)⟩,
  ⟨0x105b3, 0x105b9, .shift (-39)⟩, ⟨0x105bb, 0x105bc, .shift (-39)⟩,
  ⟨0x10c80, 0x10cb2, .shift 64⟩, ⟨0x10cc0, 0x10cf2, .shift (-64)⟩, ⟨0x10d50, 0x10d65, .shift 32⟩,
  ⟨0x10d70, 0x10d85, .shift (-32)⟩, ⟨0x118a0, 0x118bf, .shift 32⟩,
  ⟨0x118c0, 0x118df, .shift (-32)⟩, ⟨0x16e40, 0x16e5f, .shift 32⟩,
  ⟨0x16e60, 0x16e7f, .shift (-32)⟩, ⟨0x1e900, 0x1e921, .shift 34⟩,
  ⟨0x1e922, 0x1e943, .shift (-34)⟩]

/-- Halves the window `[low, high)` of the table in search of the run that holds the character. -/
def findCaseRun (code : Nat) : (fuel low high : Nat) → Option CaseRun
  | 0, _, _ => none
  | fuel + 1, low, high =>
    if low < high then
      let middle := (low + high) / 2
      match caseRuns[middle]? with
      | none => none
      | some run =>
        if code < run.first then findCaseRun code fuel low middle
        else if run.last < code then findCaseRun code fuel (middle + 1) high
        else some run
    else none

/-- The next character of the ring, or the character itself when it has no variants. -/
def nextCaseVariant (code : Nat) : Nat :=
  match findCaseRun code (caseRuns.size.log2 + 1) 0 caseRuns.size with
  | some run => run.next code
  | none => code

/-- Follows the ring from `current` until it closes at `start`. -/
def caseRing (start : Nat) : (fuel current : Nat) → List Nat
  | 0, _ => []
  | fuel + 1, current =>
    if current == start then [] else current :: caseRing start fuel (nextCaseVariant current)

/-- The other characters that differ from this one in case only.  A ring has at most four
members. -/
def caseVariants (code : Nat) : List Nat :=
  caseRing code 4 (nextCaseVariant code)

/-- The characters that have case variants. -/
def inCaseRing : CodeSet :=
  CodeSet.unionAll (caseRuns.toList.map fun run => CodeSet.range run.first run.last)

/-- The set together with all case variants of its members. -/
def CodeSet.anyCase (s : CodeSet) : CodeSet :=
  s.union (CodeSet.ofCodes ((s.inter inCaseRing).codes.flatMap caseVariants))

end RegexInference.Unicode
