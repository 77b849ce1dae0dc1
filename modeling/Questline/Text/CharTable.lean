import Questline.Text.CodeTable

/-!
# Character tables

The classes and case maps of Unicode 14, one numeral per code point, all in
base sixteen.  A class is a list of first and last code points.  A case map is
a list of runs (first, last, stride, image of the first) and a list of
characters with images of up to three characters, padded by zero.  The classes
of digits and the map to lower case are written out, for closed examples to
compute.
-/

namespace Questline.Text.CharTable

/-- Letters, marks of numbers and the underscore: what a placeholder name is made of. -/
def word : CodeRanges := .ofText "
  30 39 41 5a 5f 5f 61 7a aa aa b2 b3 b5 b5 b9 ba bc be c0 d6 d8 f6 f8 2c1 2c6 2d1 2e0 2e4
  2ec 2ec 2ee 2ee 370 374 376 377 37a 37d 37f 37f 386 386 388 38a 38c 38c 38e 3a1 3a3 3f5
  3f7 481 48a 52f 531 556 559 559 560 588 5d0 5ea 5ef 5f2 620 64a 660 669 66e 66f 671 6d3
  6d5 6d5 6e5 6e6 6ee 6fc 6ff 6ff 710 710 712 72f 74d 7a5 7b1 7b1 7c0 7ea 7f4 7f5 7fa 7fa
  800 815 81a 81a 824 824 828 828 840 858 860 86a 870 887 889 88e 8a0 8c9 904 939 93d 93d
  950 950 958 961 966 96f 971 980 985 98c 98f 990 993 9a8 9aa 9b0 9b2 9b2 9b6 9b9 9bd 9bd
  9ce 9ce 9dc 9dd 9df 9e1 9e6 9f1 9f4 9f9 9fc 9fc a05 a0a a0f a10 a13 a28 a2a a30 a32 a33
  a35 a36 a38 a39 a59 a5c a5e a5e a66 a6f a72 a74 a85 a8d a8f a91 a93 aa8 aaa ab0 ab2 ab3
  ab5 ab9 abd abd ad0 ad0 ae0 ae1 ae6 aef af9 af9 b05 b0c b0f b10 b13 b28 b2a b30 b32 b33
  b35 b39 b3d b3d b5c b5d b5f b61 b66 b6f b71 b77 b83 b83 b85 b8a b8e b90 b92 b95 b99 b9a
  b9c b9c b9e b9f ba3 ba4 ba8 baa bae bb9 bd0 bd0 be6 bf2 c05 c0c c0e c10 c12 c28 c2a c39
  c3d c3d c58 c5a c5d c5d c60 c61 c66 c6f c78 c7e c80 c80 c85 c8c c8e c90 c92 ca8 caa cb3
  cb5 cb9 cbd cbd cdd cde ce0 ce1 ce6 cef cf1 cf2 d04 d0c d0e d10 d12 d3a d3d d3d d4e d4e
  d54 d56 d58 d61 d66 d78 d7a d7f d85 d96 d9a db1 db3 dbb dbd dbd dc0 dc6 de6 def e01 e30
  e32 e33 e40 e46 e50 e59 e81 e82 e84 e84 e86 e8a e8c ea3 ea5 ea5 ea7 eb0 eb2 eb3 ebd ebd
  ec0 ec4 ec6 ec6 ed0 ed9 edc edf f00 f00 f20 f33 f40 f47 f49 f6c f88 f8c 1000 102a 103f 1049
  1050 1055 105a 105d 1061 1061 1065 1066 106e 1070 1075 1081 108e 108e 1090 1099 10a0 10c5
  10c7 10c7 10cd 10cd 10d0 10fa 10fc 1248 124a 124d 1250 1256 1258 1258 125a 125d 1260 1288
  128a 128d 1290 12b0 12b2 12b5 12b8 12be 12c0 12c0 12c2 12c5 12c8 12d6 12d8 1310 1312 1315
  1318 135a 1369 137c 1380 138f 13a0 13f5 13f8 13fd 1401 166c 166f 167f 1681 169a 16a0 16ea
  16ee 16f8 1700 1711 171f 1731 1740 1751 1760 176c 176e 1770 1780 17b3 17d7 17d7 17dc 17dc
  17e0 17e9 17f0 17f9 1810 1819 1820 1878 1880 1884 1887 18a8 18aa 18aa 18b0 18f5 1900 191e
  1946 196d 1970 1974 1980 19ab 19b0 19c9 19d0 19da 1a00 1a16 1a20 1a54 1a80 1a89 1a90 1a99
  1aa7 1aa7 1b05 1b33 1b45 1b4c 1b50 1b59 1b83 1ba0 1bae 1be5 1c00 1c23 1c40 1c49 1c4d 1c7d
  1c80 1c88 1c90 1cba 1cbd 1cbf 1ce9 1cec 1cee 1cf3 1cf5 1cf6 1cfa 1cfa 1d00 1dbf 1e00 1f15
  1f18 1f1d 1f20 1f45 1f48 1f4d 1f50 1f57 1f59 1f59 1f5b 1f5b 1f5d 1f5d 1f5f 1f7d 1f80 1fb4
  1fb6 1fbc 1fbe 1fbe 1fc2 1fc4 1fc6 1fcc 1fd0 1fd3 1fd6 1fdb 1fe0 1fec 1ff2 1ff4 1ff6 1ffc
  2070 2071 2074 2079 207f 2089 2090 209c 2102 2102 2107 2107 210a 2113 2115 2115 2119 211d
  2124 2124 2126 2126 2128 2128 212a 212d 212f 2139 213c 213f 2145 2149 214e 214e 2150 2189
  2460 249b 24ea 24ff 2776 2793 2c00 2ce4 2ceb 2cee 2cf2 2cf3 2cfd 2cfd 2d00 2d25 2d27 2d27
  2d2d 2d2d 2d30 2d67 2d6f 2d6f 2d80 2d96 2da0 2da6 2da8 2dae 2db0 2db6 2db8 2dbe 2dc0 2dc6
  2dc8 2dce 2dd0 2dd6 2dd8 2dde 2e2f 2e2f 3005 3007 3021 3029 3031 3035 3038 303c 3041 3096
  309d 309f 30a1 30fa 30fc 30ff 3105 312f 3131 318e 3192 3195 31a0 31bf 31f0 31ff 3220 3229
  3248 324f 3251 325f 3280 3289 32b1 32bf 3400 4dbf 4e00 a48c a4d0 a4fd a500 a60c a610 a62b
  a640 a66e a67f a69d a6a0 a6ef a717 a71f a722 a788 a78b a7ca a7d0 a7d1 a7d3 a7d3 a7d5 a7d9
  a7f2 a801 a803 a805 a807 a80a a80c a822 a830 a835 a840 a873 a882 a8b3 a8d0 a8d9 a8f2 a8f7
  a8fb a8fb a8fd a8fe a900 a925 a930 a946 a960 a97c a984 a9b2 a9cf a9d9 a9e0 a9e4 a9e6 a9fe
  aa00 aa28 aa40 aa42 aa44 aa4b aa50 aa59 aa60 aa76 aa7a aa7a aa7e aaaf aab1 aab1 aab5 aab6
  aab9 aabd aac0 aac0 aac2 aac2 aadb aadd aae0 aaea aaf2 aaf4 ab01 ab06 ab09 ab0e ab11 ab16
  ab20 ab26 ab28 ab2e ab30 ab5a ab5c ab69 ab70 abe2 abf0 abf9 ac00 d7a3 d7b0 d7c6 d7cb d7fb
  f900 fa6d fa70 fad9 fb00 fb06 fb13 fb17 fb1d fb1d fb1f fb28 fb2a fb36 fb38 fb3c fb3e fb3e
  fb40 fb41 fb43 fb44 fb46 fbb1 fbd3 fd3d fd50 fd8f fd92 fdc7 fdf0 fdfb fe70 fe74 fe76 fefc
  ff10 ff19 ff21 ff3a ff41 ff5a ff66 ffbe ffc2 ffc7 ffca ffcf ffd2 ffd7 ffda ffdc 10000 1000b
  1000d 10026 10028 1003a 1003c 1003d 1003f 1004d 10050 1005d 10080 100fa 10107 10133
  10140 10178 1018a 1018b 10280 1029c 102a0 102d0 102e1 102fb 10300 10323 1032d 1034a
  10350 10375 10380 1039d 103a0 103c3 103c8 103cf 103d1 103d5 10400 1049d 104a0 104a9
  104b0 104d3 104d8 104fb 10500 10527 10530 10563 10570 1057a 1057c 1058a 1058c 10592
  10594 10595 10597 105a1 105a3 105b1 105b3 105b9 105bb 105bc 10600 10736 10740 10755
  10760 10767 10780 10785 10787 107b0 107b2 107ba 10800 10805 10808 10808 1080a 10835
  10837 10838 1083c 1083c 1083f 10855 10858 10876 10879 1089e 108a7 108af 108e0 108f2
  108f4 108f5 108fb 1091b 10920 10939 10980 109b7 109bc 109cf 109d2 10a00 10a10 10a13
  10a15 10a17 10a19 10a35 10a40 10a48 10a60 10a7e 10a80 10a9f 10ac0 10ac7 10ac9 10ae4
  10aeb 10aef 10b00 10b35 10b40 10b55 10b58 10b72 10b78 10b91 10ba9 10baf 10c00 10c48
  10c80 10cb2 10cc0 10cf2 10cfa 10d23 10d30 10d39 10e60 10e7e 10e80 10ea9 10eb0 10eb1
  10f00 10f27 10f30 10f45 10f51 10f54 10f70 10f81 10fb0 10fcb 10fe0 10ff6 11003 11037
  11052 1106f 11071 11072 11075 11075 11083 110af 110d0 110e8 110f0 110f9 11103 11126
  11136 1113f 11144 11144 11147 11147 11150 11172 11176 11176 11183 111b2 111c1 111c4
  111d0 111da 111dc 111dc 111e1 111f4 11200 11211 11213 1122b 11280 11286 11288 11288
  1128a 1128d 1128f 1129d 1129f 112a8 112b0 112de 112f0 112f9 11305 1130c 1130f 11310
  11313 11328 1132a 11330 11332 11333 11335 11339 1133d 1133d 11350 11350 1135d 11361
  11400 11434 11447 1144a 11450 11459 1145f 11461 11480 114af 114c4 114c5 114c7 114c7
  114d0 114d9 11580 115ae 115d8 115db 11600 1162f 11644 11644 11650 11659 11680 116aa
  116b8 116b8 116c0 116c9 11700 1171a 11730 1173b 11740 11746 11800 1182b 118a0 118f2
  118ff 11906 11909 11909 1190c 11913 11915 11916 11918 1192f 1193f 1193f 11941 11941
  11950 11959 119a0 119a7 119aa 119d0 119e1 119e1 119e3 119e3 11a00 11a00 11a0b 11a32
  11a3a 11a3a 11a50 11a50 11a5c 11a89 11a9d 11a9d 11ab0 11af8 11c00 11c08 11c0a 11c2e
  11c40 11c40 11c50 11c6c 11c72 11c8f 11d00 11d06 11d08 11d09 11d0b 11d30 11d46 11d46
  11d50 11d59 11d60 11d65 11d67 11d68 11d6a 11d89 11d98 11d98 11da0 11da9 11ee0 11ef2
  11fb0 11fb0 11fc0 11fd4 12000 12399 12400 1246e 12480 12543 12f90 12ff0 13000 1342e
  14400 14646 16800 16a38 16a40 16a5e 16a60 16a69 16a70 16abe 16ac0 16ac9 16ad0 16aed
  16b00 16b2f 16b40 16b43 16b50 16b59 16b5b 16b61 16b63 16b77 16b7d 16b8f 16e40 16e96
  16f00 16f4a 16f50 16f50 16f93 16f9f 16fe0 16fe1 16fe3 16fe3 17000 187f7 18800 18cd5
  18d00 18d08 1aff0 1aff3 1aff5 1affb 1affd 1affe 1b000 1b122 1b150 1b152 1b164 1b167
  1b170 1b2fb 1bc00 1bc6a 1bc70 1bc7c 1bc80 1bc88 1bc90 1bc99 1d2e0 1d2f3 1d360 1d378
  1d400 1d454 1d456 1d49c 1d49e 1d49f 1d4a2 1d4a2 1d4a5 1d4a6 1d4a9 1d4ac 1d4ae 1d4b9
  1d4bb 1d4bb 1d4bd 1d4c3 1d4c5 1d505 1d507 1d50a 1d50d 1d514 1d516 1d51c 1d51e 1d539
  1d53b 1d53e 1d540 1d544 1d546 1d546 1d54a 1d550 1d552 1d6a5 1d6a8 1d6c0 1d6c2 1d6da
  1d6dc 1d6fa 1d6fc 1d714 1d716 1d734 1d736 1d74e 1d750 1d76e 1d770 1d788 1d78a 1d7a8
  1d7aa 1d7c2 1d7c4 1d7cb 1d7ce 1d7ff 1df00 1df1e 1e100 1e12c 1e137 1e13d 1e140 1e149
  1e14e 1e14e 1e290 1e2ad 1e2c0 1e2eb 1e2f0 1e2f9 1e7e0 1e7e6 1e7e8 1e7eb 1e7ed 1e7ee
  1e7f0 1e7fe 1e800 1e8c4 1e8c7 1e8cf 1e900 1e943 1e94b 1e94b 1e950 1e959 1ec71 1ecab
  1ecad 1ecaf 1ecb1 1ecb4 1ed01 1ed2d 1ed2f 1ed3d 1ee00 1ee03 1ee05 1ee1f 1ee21 1ee22
  1ee24 1ee24 1ee27 1ee27 1ee29 1ee32 1ee34 1ee37 1ee39 1ee39 1ee3b 1ee3b 1ee42 1ee42
  1ee47 1ee47 1ee49 1ee49 1ee4b 1ee4b 1ee4d 1ee4f 1ee51 1ee52 1ee54 1ee54 1ee57 1ee57
  1ee59 1ee59 1ee5b 1ee5b 1ee5d 1ee5d 1ee5f 1ee5f 1ee61 1ee62 1ee64 1ee64 1ee67 1ee6a
  1ee6c 1ee72 1ee74 1ee77 1ee79 1ee7c 1ee7e 1ee7e 1ee80 1ee89 1ee8b 1ee9b 1eea1 1eea3
  1eea5 1eea9 1eeab 1eebb 1f100 1f10c 1fbf0 1fbf9 20000 2a6df 2a700 2b738 2b740 2b81d
  2b820 2cea1 2ceb0 2ebe0 2f800 2fa1d 30000 3134a"

/-- Decimal digits, in runs of ten that start at the digit zero. -/
def decimal : CodeRanges where
  spans :=
    #[(0x30, 0x39), (0x660, 0x669), (0x6f0, 0x6f9), (0x7c0, 0x7c9), (0x966, 0x96f), (0x9e6, 0x9ef),
      (0xa66, 0xa6f), (0xae6, 0xaef), (0xb66, 0xb6f), (0xbe6, 0xbef), (0xc66, 0xc6f),
      (0xce6, 0xcef), (0xd66, 0xd6f), (0xde6, 0xdef), (0xe50, 0xe59), (0xed0, 0xed9),
      (0xf20, 0xf29), (0x1040, 0x1049), (0x1090, 0x1099), (0x17e0, 0x17e9), (0x1810, 0x1819),
      (0x1946, 0x194f), (0x19d0, 0x19d9), (0x1a80, 0x1a89), (0x1a90, 0x1a99), (0x1b50, 0x1b59),
      (0x1bb0, 0x1bb9), (0x1c40, 0x1c49), (0x1c50, 0x1c59), (0xa620, 0xa629), (0xa8d0, 0xa8d9),
      (0xa900, 0xa909), (0xa9d0, 0xa9d9), (0xa9f0, 0xa9f9), (0xaa50, 0xaa59), (0xabf0, 0xabf9),
      (0xff10, 0xff19), (0x104a0, 0x104a9), (0x10d30, 0x10d39), (0x11066, 0x1106f),
      (0x110f0, 0x110f9), (0x11136, 0x1113f), (0x111d0, 0x111d9), (0x112f0, 0x112f9),
      (0x11450, 0x11459), (0x114d0, 0x114d9), (0x11650, 0x11659), (0x116c0, 0x116c9),
      (0x11730, 0x11739), (0x118e0, 0x118e9), (0x11950, 0x11959), (0x11c50, 0x11c59),
      (0x11d50, 0x11d59), (0x11da0, 0x11da9), (0x16a60, 0x16a69), (0x16ac0, 0x16ac9),
      (0x16b50, 0x16b59), (0x1d7ce, 0x1d7ff), (0x1e140, 0x1e149), (0x1e2f0, 0x1e2f9),
      (0x1e950, 0x1e959), (0x1fbf0, 0x1fbf9)]

/-- Decimal digits, superscripts, circled digits and the like. -/
def digit : CodeRanges where
  spans :=
    #[(0x30, 0x39), (0xb2, 0xb3), (0xb9, 0xb9), (0x660, 0x669), (0x6f0, 0x6f9), (0x7c0, 0x7c9),
      (0x966, 0x96f), (0x9e6, 0x9ef), (0xa66, 0xa6f), (0xae6, 0xaef), (0xb66, 0xb6f),
      (0xbe6, 0xbef), (0xc66, 0xc6f), (0xce6, 0xcef), (0xd66, 0xd6f), (0xde6, 0xdef),
      (0xe50, 0xe59), (0xed0, 0xed9), (0xf20, 0xf29), (0x1040, 0x1049), (0x1090, 0x1099),
      (0x1369, 0x1371), (0x17e0, 0x17e9), (0x1810, 0x1819), (0x1946, 0x194f), (0x19d0, 0x19da),
      (0x1a80, 0x1a89), (0x1a90, 0x1a99), (0x1b50, 0x1b59), (0x1bb0, 0x1bb9), (0x1c40, 0x1c49),
      (0x1c50, 0x1c59), (0x2070, 0x2070), (0x2074, 0x2079), (0x2080, 0x2089), (0x2460, 0x2468),
      (0x2474, 0x247c), (0x2488, 0x2490), (0x24ea, 0x24ea), (0x24f5, 0x24fd), (0x24ff, 0x24ff),
      (0x2776, 0x277e), (0x2780, 0x2788), (0x278a, 0x2792), (0xa620, 0xa629), (0xa8d0, 0xa8d9),
      (0xa900, 0xa909), (0xa9d0, 0xa9d9), (0xa9f0, 0xa9f9), (0xaa50, 0xaa59), (0xabf0, 0xabf9),
      (0xff10, 0xff19), (0x104a0, 0x104a9), (0x10a40, 0x10a43), (0x10d30, 0x10d39),
      (0x10e60, 0x10e68), (0x11052, 0x1105a), (0x11066, 0x1106f), (0x110f0, 0x110f9),
      (0x11136, 0x1113f), (0x111d0, 0x111d9), (0x112f0, 0x112f9), (0x11450, 0x11459),
      (0x114d0, 0x114d9), (0x11650, 0x11659), (0x116c0, 0x116c9), (0x11730, 0x11739),
      (0x118e0, 0x118e9), (0x11950, 0x11959), (0x11c50, 0x11c59), (0x11d50, 0x11d59),
      (0x11da0, 0x11da9), (0x16a60, 0x16a69), (0x16ac0, 0x16ac9), (0x16b50, 0x16b59),
      (0x1d7ce, 0x1d7ff), (0x1e140, 0x1e149), (0x1e2f0, 0x1e2f9), (0x1e950, 0x1e959),
      (0x1f100, 0x1f10a), (0x1fbf0, 0x1fbf9)]

/-- Characters that may begin a plain name. -/
def nameStart : CodeRanges := .ofText "
  41 5a 5f 5f 61 7a aa aa b5 b5 ba ba c0 d6 d8 f6 f8 2c1 2c6 2d1 2e0 2e4 2ec 2ec 2ee 2ee
  370 374 376 377 37b 37d 37f 37f 386 386 388 38a 38c 38c 38e 3a1 3a3 3f5 3f7 481 48a 52f
  531 556 559 559 560 588 5d0 5ea 5ef 5f2 620 64a 66e 66f 671 6d3 6d5 6d5 6e5 6e6 6ee 6ef
  6fa 6fc 6ff 6ff 710 710 712 72f 74d 7a5 7b1 7b1 7ca 7ea 7f4 7f5 7fa 7fa 800 815 81a 81a
  824 824 828 828 840 858 860 86a 870 887 889 88e 8a0 8c9 904 939 93d 93d 950 950 958 961
  971 980 985 98c 98f 990 993 9a8 9aa 9b0 9b2 9b2 9b6 9b9 9bd 9bd 9ce 9ce 9dc 9dd 9df 9e1
  9f0 9f1 9fc 9fc a05 a0a a0f a10 a13 a28 a2a a30 a32 a33 a35 a36 a38 a39 a59 a5c a5e a5e
  a72 a74 a85 a8d a8f a91 a93 aa8 aaa ab0 ab2 ab3 ab5 ab9 abd abd ad0 ad0 ae0 ae1 af9 af9
  b05 b0c b0f b10 b13 b28 b2a b30 b32 b33 b35 b39 b3d b3d b5c b5d b5f b61 b71 b71 b83 b83
  b85 b8a b8e b90 b92 b95 b99 b9a b9c b9c b9e b9f ba3 ba4 ba8 baa bae bb9 bd0 bd0 c05 c0c
  c0e c10 c12 c28 c2a c39 c3d c3d c58 c5a c5d c5d c60 c61 c80 c80 c85 c8c c8e c90 c92 ca8
  caa cb3 cb5 cb9 cbd cbd cdd cde ce0 ce1 cf1 cf2 d04 d0c d0e d10 d12 d3a d3d d3d d4e d4e
  d54 d56 d5f d61 d7a d7f d85 d96 d9a db1 db3 dbb dbd dbd dc0 dc6 e01 e30 e32 e32 e40 e46
  e81 e82 e84 e84 e86 e8a e8c ea3 ea5 ea5 ea7 eb0 eb2 eb2 ebd ebd ec0 ec4 ec6 ec6 edc edf
  f00 f00 f40 f47 f49 f6c f88 f8c 1000 102a 103f 103f 1050 1055 105a 105d 1061 1061 1065 1066
  106e 1070 1075 1081 108e 108e 10a0 10c5 10c7 10c7 10cd 10cd 10d0 10fa 10fc 1248 124a 124d
  1250 1256 1258 1258 125a 125d 1260 1288 128a 128d 1290 12b0 12b2 12b5 12b8 12be 12c0 12c0
  12c2 12c5 12c8 12d6 12d8 1310 1312 1315 1318 135a 1380 138f 13a0 13f5 13f8 13fd 1401 166c
  166f 167f 1681 169a 16a0 16ea 16ee 16f8 1700 1711 171f 1731 1740 1751 1760 176c 176e 1770
  1780 17b3 17d7 17d7 17dc 17dc 1820 1878 1880 18a8 18aa 18aa 18b0 18f5 1900 191e 1950 196d
  1970 1974 1980 19ab 19b0 19c9 1a00 1a16 1a20 1a54 1aa7 1aa7 1b05 1b33 1b45 1b4c 1b83 1ba0
  1bae 1baf 1bba 1be5 1c00 1c23 1c4d 1c4f 1c5a 1c7d 1c80 1c88 1c90 1cba 1cbd 1cbf 1ce9 1cec
  1cee 1cf3 1cf5 1cf6 1cfa 1cfa 1d00 1dbf 1e00 1f15 1f18 1f1d 1f20 1f45 1f48 1f4d 1f50 1f57
  1f59 1f59 1f5b 1f5b 1f5d 1f5d 1f5f 1f7d 1f80 1fb4 1fb6 1fbc 1fbe 1fbe 1fc2 1fc4 1fc6 1fcc
  1fd0 1fd3 1fd6 1fdb 1fe0 1fec 1ff2 1ff4 1ff6 1ffc 2071 2071 207f 207f 2090 209c 2102 2102
  2107 2107 210a 2113 2115 2115 2118 211d 2124 2124 2126 2126 2128 2128 212a 2139 213c 213f
  2145 2149 214e 214e 2160 2188 2c00 2ce4 2ceb 2cee 2cf2 2cf3 2d00 2d25 2d27 2d27 2d2d 2d2d
  2d30 2d67 2d6f 2d6f 2d80 2d96 2da0 2da6 2da8 2dae 2db0 2db6 2db8 2dbe 2dc0 2dc6 2dc8 2dce
  2dd0 2dd6 2dd8 2dde 3005 3007 3021 3029 3031 3035 3038 303c 3041 3096 309d 309f 30a1 30fa
  30fc 30ff 3105 312f 3131 318e 31a0 31bf 31f0 31ff 3400 4dbf 4e00 a48c a4d0 a4fd a500 a60c
  a610 a61f a62a a62b a640 a66e a67f a69d a6a0 a6ef a717 a71f a722 a788 a78b a7ca a7d0 a7d1
  a7d3 a7d3 a7d5 a7d9 a7f2 a801 a803 a805 a807 a80a a80c a822 a840 a873 a882 a8b3 a8f2 a8f7
  a8fb a8fb a8fd a8fe a90a a925 a930 a946 a960 a97c a984 a9b2 a9cf a9cf a9e0 a9e4 a9e6 a9ef
  a9fa a9fe aa00 aa28 aa40 aa42 aa44 aa4b aa60 aa76 aa7a aa7a aa7e aaaf aab1 aab1 aab5 aab6
  aab9 aabd aac0 aac0 aac2 aac2 aadb aadd aae0 aaea aaf2 aaf4 ab01 ab06 ab09 ab0e ab11 ab16
  ab20 ab26 ab28 ab2e ab30 ab5a ab5c ab69 ab70 abe2 ac00 d7a3 d7b0 d7c6 d7cb d7fb f900 fa6d
  fa70 fad9 fb00 fb06 fb13 fb17 fb1d fb1d fb1f fb28 fb2a fb36 fb38 fb3c fb3e fb3e fb40 fb41
  fb43 fb44 fb46 fbb1 fbd3 fc5d fc64 fd3d fd50 fd8f fd92 fdc7 fdf0 fdf9 fe71 fe71 fe73 fe73
  fe77 fe77 fe79 fe79 fe7b fe7b fe7d fe7d fe7f fefc ff21 ff3a ff41 ff5a ff66 ff9d ffa0 ffbe
  ffc2 ffc7 ffca ffcf ffd2 ffd7 ffda ffdc 10000 1000b 1000d 10026 10028 1003a 1003c 1003d
  1003f 1004d 10050 1005d 10080 100fa 10140 10174 10280 1029c 102a0 102d0 10300 1031f
  1032d 1034a 10350 10375 10380 1039d 103a0 103c3 103c8 103cf 103d1 103d5 10400 1049d
  104b0 104d3 104d8 104fb 10500 10527 10530 10563 10570 1057a 1057c 1058a 1058c 10592
  10594 10595 10597 105a1 105a3 105b1 105b3 105b9 105bb 105bc 10600 10736 10740 10755
  10760 10767 10780 10785 10787 107b0 107b2 107ba 10800 10805 10808 10808 1080a 10835
  10837 10838 1083c 1083c 1083f 10855 10860 10876 10880 1089e 108e0 108f2 108f4 108f5
  10900 10915 10920 10939 10980 109b7 109be 109bf 10a00 10a00 10a10 10a13 10a15 10a17
  10a19 10a35 10a60 10a7c 10a80 10a9c 10ac0 10ac7 10ac9 10ae4 10b00 10b35 10b40 10b55
  10b60 10b72 10b80 10b91 10c00 10c48 10c80 10cb2 10cc0 10cf2 10d00 10d23 10e80 10ea9
  10eb0 10eb1 10f00 10f1c 10f27 10f27 10f30 10f45 10f70 10f81 10fb0 10fc4 10fe0 10ff6
  11003 11037 11071 11072 11075 11075 11083 110af 110d0 110e8 11103 11126 11144 11144
  11147 11147 11150 11172 11176 11176 11183 111b2 111c1 111c4 111da 111da 111dc 111dc
  11200 11211 11213 1122b 11280 11286 11288 11288 1128a 1128d 1128f 1129d 1129f 112a8
  112b0 112de 11305 1130c 1130f 11310 11313 11328 1132a 11330 11332 11333 11335 11339
  1133d 1133d 11350 11350 1135d 11361 11400 11434 11447 1144a 1145f 11461 11480 114af
  114c4 114c5 114c7 114c7 11580 115ae 115d8 115db 11600 1162f 11644 11644 11680 116aa
  116b8 116b8 11700 1171a 11740 11746 11800 1182b 118a0 118df 118ff 11906 11909 11909
  1190c 11913 11915 11916 11918 1192f 1193f 1193f 11941 11941 119a0 119a7 119aa 119d0
  119e1 119e1 119e3 119e3 11a00 11a00 11a0b 11a32 11a3a 11a3a 11a50 11a50 11a5c 11a89
  11a9d 11a9d 11ab0 11af8 11c00 11c08 11c0a 11c2e 11c40 11c40 11c72 11c8f 11d00 11d06
  11d08 11d09 11d0b 11d30 11d46 11d46 11d60 11d65 11d67 11d68 11d6a 11d89 11d98 11d98
  11ee0 11ef2 11fb0 11fb0 12000 12399 12400 1246e 12480 12543 12f90 12ff0 13000 1342e
  14400 14646 16800 16a38 16a40 16a5e 16a70 16abe 16ad0 16aed 16b00 16b2f 16b40 16b43
  16b63 16b77 16b7d 16b8f 16e40 16e7f 16f00 16f4a 16f50 16f50 16f93 16f9f 16fe0 16fe1
  16fe3 16fe3 17000 187f7 18800 18cd5 18d00 18d08 1aff0 1aff3 1aff5 1affb 1affd 1affe
  1b000 1b122 1b150 1b152 1b164 1b167 1b170 1b2fb 1bc00 1bc6a 1bc70 1bc7c 1bc80 1bc88
  1bc90 1bc99 1d400 1d454 1d456 1d49c 1d49e 1d49f 1d4a2 1d4a2 1d4a5 1d4a6 1d4a9 1d4ac
  1d4ae 1d4b9 1d4bb 1d4bb 1d4bd 1d4c3 1d4c5 1d505 1d507 1d50a 1d50d 1d514 1d516 1d51c
  1d51e 1d539 1d53b 1d53e 1d540 1d544 1d546 1d546 1d54a 1d550 1d552 1d6a5 1d6a8 1d6c0
  1d6c2 1d6da 1d6dc 1d6fa 1d6fc 1d714 1d716 1d734 1d736 1d74e 1d750 1d76e 1d770 1d788
  1d78a 1d7a8 1d7aa 1d7c2 1d7c4 1d7cb 1df00 1df1e 1e100 1e12c 1e137 1e13d 1e14e 1e14e
  1e290 1e2ad 1e2c0 1e2eb 1e7e0 1e7e6 1e7e8 1e7eb 1e7ed 1e7ee 1e7f0 1e7fe 1e800 1e8c4
  1e900 1e943 1e94b 1e94b 1ee00 1ee03 1ee05 1ee1f 1ee21 1ee22 1ee24 1ee24 1ee27 1ee27
  1ee29 1ee32 1ee34 1ee37 1ee39 1ee39 1ee3b 1ee3b 1ee42 1ee42 1ee47 1ee47 1ee49 1ee49
  1ee4b 1ee4b 1ee4d 1ee4f 1ee51 1ee52 1ee54 1ee54 1ee57 1ee57 1ee59 1ee59 1ee5b 1ee5b
  1ee5d 1ee5d 1ee5f 1ee5f 1ee61 1ee62 1ee64 1ee64 1ee67 1ee6a 1ee6c 1ee72 1ee74 1ee77
  1ee79 1ee7c 1ee7e 1ee7e 1ee80 1ee89 1ee8b 1ee9b 1eea1 1eea3 1eea5 1eea9 1eeab 1eebb
  20000 2a6df 2a700 2b738 2b740 2b81d 2b820 2cea1 2ceb0 2ebe0 2f800 2fa1d 30000 3134a"

/-- Characters that may stand inside a plain name. -/
def nameContinue : CodeRanges := .ofText "
  30 39 41 5a 5f 5f 61 7a aa aa b5 b5 b7 b7 ba ba c0 d6 d8 f6 f8 2c1 2c6 2d1 2e0 2e4 2ec 2ec
  2ee 2ee 300 374 376 377 37b 37d 37f 37f 386 38a 38c 38c 38e 3a1 3a3 3f5 3f7 481 483 487
  48a 52f 531 556 559 559 560 588 591 5bd 5bf 5bf 5c1 5c2 5c4 5c5 5c7 5c7 5d0 5ea 5ef 5f2
  610 61a 620 669 66e 6d3 6d5 6dc 6df 6e8 6ea 6fc 6ff 6ff 710 74a 74d 7b1 7c0 7f5 7fa 7fa
  7fd 7fd 800 82d 840 85b 860 86a 870 887 889 88e 898 8e1 8e3 963 966 96f 971 983 985 98c
  98f 990 993 9a8 9aa 9b0 9b2 9b2 9b6 9b9 9bc 9c4 9c7 9c8 9cb 9ce 9d7 9d7 9dc 9dd 9df 9e3
  9e6 9f1 9fc 9fc 9fe 9fe a01 a03 a05 a0a a0f a10 a13 a28 a2a a30 a32 a33 a35 a36 a38 a39
  a3c a3c a3e a42 a47 a48 a4b a4d a51 a51 a59 a5c a5e a5e a66 a75 a81 a83 a85 a8d a8f a91
  a93 aa8 aaa ab0 ab2 ab3 ab5 ab9 abc ac5 ac7 ac9 acb acd ad0 ad0 ae0 ae3 ae6 aef af9 aff
  b01 b03 b05 b0c b0f b10 b13 b28 b2a b30 b32 b33 b35 b39 b3c b44 b47 b48 b4b b4d b55 b57
  b5c b5d b5f b63 b66 b6f b71 b71 b82 b83 b85 b8a b8e b90 b92 b95 b99 b9a b9c b9c b9e b9f
  ba3 ba4 ba8 baa bae bb9 bbe bc2 bc6 bc8 bca bcd bd0 bd0 bd7 bd7 be6 bef c00 c0c c0e c10
  c12 c28 c2a c39 c3c c44 c46 c48 c4a c4d c55 c56 c58 c5a c5d c5d c60 c63 c66 c6f c80 c83
  c85 c8c c8e c90 c92 ca8 caa cb3 cb5 cb9 cbc cc4 cc6 cc8 cca ccd cd5 cd6 cdd cde ce0 ce3
  ce6 cef cf1 cf2 d00 d0c d0e d10 d12 d44 d46 d48 d4a d4e d54 d57 d5f d63 d66 d6f d7a d7f
  d81 d83 d85 d96 d9a db1 db3 dbb dbd dbd dc0 dc6 dca dca dcf dd4 dd6 dd6 dd8 ddf de6 def
  df2 df3 e01 e3a e40 e4e e50 e59 e81 e82 e84 e84 e86 e8a e8c ea3 ea5 ea5 ea7 ebd ec0 ec4
  ec6 ec6 ec8 ecd ed0 ed9 edc edf f00 f00 f18 f19 f20 f29 f35 f35 f37 f37 f39 f39 f3e f47
  f49 f6c f71 f84 f86 f97 f99 fbc fc6 fc6 1000 1049 1050 109d 10a0 10c5 10c7 10c7 10cd 10cd
  10d0 10fa 10fc 1248 124a 124d 1250 1256 1258 1258 125a 125d 1260 1288 128a 128d 1290 12b0
  12b2 12b5 12b8 12be 12c0 12c0 12c2 12c5 12c8 12d6 12d8 1310 1312 1315 1318 135a 135d 135f
  1369 1371 1380 138f 13a0 13f5 13f8 13fd 1401 166c 166f 167f 1681 169a 16a0 16ea 16ee 16f8
  1700 1715 171f 1734 1740 1753 1760 176c 176e 1770 1772 1773 1780 17d3 17d7 17d7 17dc 17dd
  17e0 17e9 180b 180d 180f 1819 1820 1878 1880 18aa 18b0 18f5 1900 191e 1920 192b 1930 193b
  1946 196d 1970 1974 1980 19ab 19b0 19c9 19d0 19da 1a00 1a1b 1a20 1a5e 1a60 1a7c 1a7f 1a89
  1a90 1a99 1aa7 1aa7 1ab0 1abd 1abf 1ace 1b00 1b4c 1b50 1b59 1b6b 1b73 1b80 1bf3 1c00 1c37
  1c40 1c49 1c4d 1c7d 1c80 1c88 1c90 1cba 1cbd 1cbf 1cd0 1cd2 1cd4 1cfa 1d00 1f15 1f18 1f1d
  1f20 1f45 1f48 1f4d 1f50 1f57 1f59 1f59 1f5b 1f5b 1f5d 1f5d 1f5f 1f7d 1f80 1fb4 1fb6 1fbc
  1fbe 1fbe 1fc2 1fc4 1fc6 1fcc 1fd0 1fd3 1fd6 1fdb 1fe0 1fec 1ff2 1ff4 1ff6 1ffc 203f 2040
  2054 2054 2071 2071 207f 207f 2090 209c 20d0 20dc 20e1 20e1 20e5 20f0 2102 2102 2107 2107
  210a 2113 2115 2115 2118 211d 2124 2124 2126 2126 2128 2128 212a 2139 213c 213f 2145 2149
  214e 214e 2160 2188 2c00 2ce4 2ceb 2cf3 2d00 2d25 2d27 2d27 2d2d 2d2d 2d30 2d67 2d6f 2d6f
  2d7f 2d96 2da0 2da6 2da8 2dae 2db0 2db6 2db8 2dbe 2dc0 2dc6 2dc8 2dce 2dd0 2dd6 2dd8 2dde
  2de0 2dff 3005 3007 3021 302f 3031 3035 3038 303c 3041 3096 3099 309a 309d 309f 30a1 30fa
  30fc 30ff 3105 312f 3131 318e 31a0 31bf 31f0 31ff 3400 4dbf 4e00 a48c a4d0 a4fd a500 a60c
  a610 a62b a640 a66f a674 a67d a67f a6f1 a717 a71f a722 a788 a78b a7ca a7d0 a7d1 a7d3 a7d3
  a7d5 a7d9 a7f2 a827 a82c a82c a840 a873 a880 a8c5 a8d0 a8d9 a8e0 a8f7 a8fb a8fb a8fd a92d
  a930 a953 a960 a97c a980 a9c0 a9cf a9d9 a9e0 a9fe aa00 aa36 aa40 aa4d aa50 aa59 aa60 aa76
  aa7a aac2 aadb aadd aae0 aaef aaf2 aaf6 ab01 ab06 ab09 ab0e ab11 ab16 ab20 ab26 ab28 ab2e
  ab30 ab5a ab5c ab69 ab70 abea abec abed abf0 abf9 ac00 d7a3 d7b0 d7c6 d7cb d7fb f900 fa6d
  fa70 fad9 fb00 fb06 fb13 fb17 fb1d fb28 fb2a fb36 fb38 fb3c fb3e fb3e fb40 fb41 fb43 fb44
  fb46 fbb1 fbd3 fc5d fc64 fd3d fd50 fd8f fd92 fdc7 fdf0 fdf9 fe00 fe0f fe20 fe2f fe33 fe34
  fe4d fe4f fe71 fe71 fe73 fe73 fe77 fe77 fe79 fe79 fe7b fe7b fe7d fe7d fe7f fefc ff10 ff19
  ff21 ff3a ff3f ff3f ff41 ff5a ff66 ffbe ffc2 ffc7 ffca ffcf ffd2 ffd7 ffda ffdc 10000 1000b
  1000d 10026 10028 1003a 1003c 1003d 1003f 1004d 10050 1005d 10080 100fa 10140 10174
  101fd 101fd 10280 1029c 102a0 102d0 102e0 102e0 10300 1031f 1032d 1034a 10350 1037a
  10380 1039d 103a0 103c3 103c8 103cf 103d1 103d5 10400 1049d 104a0 104a9 104b0 104d3
  104d8 104fb 10500 10527 10530 10563 10570 1057a 1057c 1058a 1058c 10592 10594 10595
  10597 105a1 105a3 105b1 105b3 105b9 105bb 105bc 10600 10736 10740 10755 10760 10767
  10780 10785 10787 107b0 107b2 107ba 10800 10805 10808 10808 1080a 10835 10837 10838
  1083c 1083c 1083f 10855 10860 10876 10880 1089e 108e0 108f2 108f4 108f5 10900 10915
  10920 10939 10980 109b7 109be 109bf 10a00 10a03 10a05 10a06 10a0c 10a13 10a15 10a17
  10a19 10a35 10a38 10a3a 10a3f 10a3f 10a60 10a7c 10a80 10a9c 10ac0 10ac7 10ac9 10ae6
  10b00 10b35 10b40 10b55 10b60 10b72 10b80 10b91 10c00 10c48 10c80 10cb2 10cc0 10cf2
  10d00 10d27 10d30 10d39 10e80 10ea9 10eab 10eac 10eb0 10eb1 10f00 10f1c 10f27 10f27
  10f30 10f50 10f70 10f85 10fb0 10fc4 10fe0 10ff6 11000 11046 11066 11075 1107f 110ba
  110c2 110c2 110d0 110e8 110f0 110f9 11100 11134 11136 1113f 11144 11147 11150 11173
  11176 11176 11180 111c4 111c9 111cc 111ce 111da 111dc 111dc 11200 11211 11213 11237
  1123e 1123e 11280 11286 11288 11288 1128a 1128d 1128f 1129d 1129f 112a8 112b0 112ea
  112f0 112f9 11300 11303 11305 1130c 1130f 11310 11313 11328 1132a 11330 11332 11333
  11335 11339 1133b 11344 11347 11348 1134b 1134d 11350 11350 11357 11357 1135d 11363
  11366 1136c 11370 11374 11400 1144a 11450 11459 1145e 11461 11480 114c5 114c7 114c7
  114d0 114d9 11580 115b5 115b8 115c0 115d8 115dd 11600 11640 11644 11644 11650 11659
  11680 116b8 116c0 116c9 11700 1171a 1171d 1172b 11730 11739 11740 11746 11800 1183a
  118a0 118e9 118ff 11906 11909 11909 1190c 11913 11915 11916 11918 11935 11937 11938
  1193b 11943 11950 11959 119a0 119a7 119aa 119d7 119da 119e1 119e3 119e4 11a00 11a3e
  11a47 11a47 11a50 11a99 11a9d 11a9d 11ab0 11af8 11c00 11c08 11c0a 11c36 11c38 11c40
  11c50 11c59 11c72 11c8f 11c92 11ca7 11ca9 11cb6 11d00 11d06 11d08 11d09 11d0b 11d36
  11d3a 11d3a 11d3c 11d3d 11d3f 11d47 11d50 11d59 11d60 11d65 11d67 11d68 11d6a 11d8e
  11d90 11d91 11d93 11d98 11da0 11da9 11ee0 11ef6 11fb0 11fb0 12000 12399 12400 1246e
  12480 12543 12f90 12ff0 13000 1342e 14400 14646 16800 16a38 16a40 16a5e 16a60 16a69
  16a70 16abe 16ac0 16ac9 16ad0 16aed 16af0 16af4 16b00 16b36 16b40 16b43 16b50 16b59
  16b63 16b77 16b7d 16b8f 16e40 16e7f 16f00 16f4a 16f4f 16f87 16f8f 16f9f 16fe0 16fe1
  16fe3 16fe4 16ff0 16ff1 17000 187f7 18800 18cd5 18d00 18d08 1aff0 1aff3 1aff5 1affb
  1affd 1affe 1b000 1b122 1b150 1b152 1b164 1b167 1b170 1b2fb 1bc00 1bc6a 1bc70 1bc7c
  1bc80 1bc88 1bc90 1bc99 1bc9d 1bc9e 1cf00 1cf2d 1cf30 1cf46 1d165 1d169 1d16d 1d172
  1d17b 1d182 1d185 1d18b 1d1aa 1d1ad 1d242 1d244 1d400 1d454 1d456 1d49c 1d49e 1d49f
  1d4a2 1d4a2 1d4a5 1d4a6 1d4a9 1d4ac 1d4ae 1d4b9 1d4bb 1d4bb 1d4bd 1d4c3 1d4c5 1d505
  1d507 1d50a 1d50d 1d514 1d516 1d51c 1d51e 1d539 1d53b 1d53e 1d540 1d544 1d546 1d546
  1d54a 1d550 1d552 1d6a5 1d6a8 1d6c0 1d6c2 1d6da 1d6dc 1d6fa 1d6fc 1d714 1d716 1d734
  1d736 1d74e 1d750 1d76e 1d770 1d788 1d78a 1d7a8 1d7aa 1d7c2 1d7c4 1d7cb 1d7ce 1d7ff
  1da00 1da36 1da3b 1da6c 1da75 1da75 1da84 1da84 1da9b 1da9f 1daa1 1daaf 1df00 1df1e
  1e000 1e006 1e008 1e018 1e01b 1e021 1e023 1e024 1e026 1e02a 1e100 1e12c 1e130 1e13d
  1e140 1e149 1e14e 1e14e 1e290 1e2ae 1e2c0 1e2f9 1e7e0 1e7e6 1e7e8 1e7eb 1e7ed 1e7ee
  1e7f0 1e7fe 1e800 1e8c4 1e8d0 1e8d6 1e900 1e94b 1e950 1e959 1ee00 1ee03 1ee05 1ee1f
  1ee21 1ee22 1ee24 1ee24 1ee27 1ee27 1ee29 1ee32 1ee34 1ee37 1ee39 1ee39 1ee3b 1ee3b
  1ee42 1ee42 1ee47 1ee47 1ee49 1ee49 1ee4b 1ee4b 1ee4d 1ee4f 1ee51 1ee52 1ee54 1ee54
  1ee57 1ee57 1ee59 1ee59 1ee5b 1ee5b 1ee5d 1ee5d 1ee5f 1ee5f 1ee61 1ee62 1ee64 1ee64
  1ee67 1ee6a 1ee6c 1ee72 1ee74 1ee77 1ee79 1ee7c 1ee7e 1ee7e 1ee80 1ee89 1ee8b 1ee9b
  1eea1 1eea3 1eea5 1eea9 1eeab 1eebb 1fbf0 1fbf9 20000 2a6df 2a700 2b738 2b740 2b81d
  2b820 2cea1 2ceb0 2ebe0 2f800 2fa1d 30000 3134a e0100 e01ef"

/-- Characters that are shown as they are inside quotes. -/
def printable : CodeRanges := .ofText "
  20 7e a1 ac ae 377 37a 37f 384 38a 38c 38c 38e 3a1 3a3 52f 531 556 559 58a 58d 58f 591 5c7
  5d0 5ea 5ef 5f4 606 61b 61d 6dc 6de 70d 710 74a 74d 7b1 7c0 7fa 7fd 82d 830 83e 840 85b
  85e 85e 860 86a 870 88e 898 8e1 8e3 983 985 98c 98f 990 993 9a8 9aa 9b0 9b2 9b2 9b6 9b9
  9bc 9c4 9c7 9c8 9cb 9ce 9d7 9d7 9dc 9dd 9df 9e3 9e6 9fe a01 a03 a05 a0a a0f a10 a13 a28
  a2a a30 a32 a33 a35 a36 a38 a39 a3c a3c a3e a42 a47 a48 a4b a4d a51 a51 a59 a5c a5e a5e
  a66 a76 a81 a83 a85 a8d a8f a91 a93 aa8 aaa ab0 ab2 ab3 ab5 ab9 abc ac5 ac7 ac9 acb acd
  ad0 ad0 ae0 ae3 ae6 af1 af9 aff b01 b03 b05 b0c b0f b10 b13 b28 b2a b30 b32 b33 b35 b39
  b3c b44 b47 b48 b4b b4d b55 b57 b5c b5d b5f b63 b66 b77 b82 b83 b85 b8a b8e b90 b92 b95
  b99 b9a b9c b9c b9e b9f ba3 ba4 ba8 baa bae bb9 bbe bc2 bc6 bc8 bca bcd bd0 bd0 bd7 bd7
  be6 bfa c00 c0c c0e c10 c12 c28 c2a c39 c3c c44 c46 c48 c4a c4d c55 c56 c58 c5a c5d c5d
  c60 c63 c66 c6f c77 c8c c8e c90 c92 ca8 caa cb3 cb5 cb9 cbc cc4 cc6 cc8 cca ccd cd5 cd6
  cdd cde ce0 ce3 ce6 cef cf1 cf2 d00 d0c d0e d10 d12 d44 d46 d48 d4a d4f d54 d63 d66 d7f
  d81 d83 d85 d96 d9a db1 db3 dbb dbd dbd dc0 dc6 dca dca dcf dd4 dd6 dd6 dd8 ddf de6 def
  df2 df4 e01 e3a e3f e5b e81 e82 e84 e84 e86 e8a e8c ea3 ea5 ea5 ea7 ebd ec0 ec4 ec6 ec6
  ec8 ecd ed0 ed9 edc edf f00 f47 f49 f6c f71 f97 f99 fbc fbe fcc fce fda 1000 10c5 10c7 10c7
  10cd 10cd 10d0 1248 124a 124d 1250 1256 1258 1258 125a 125d 1260 1288 128a 128d 1290 12b0
  12b2 12b5 12b8 12be 12c0 12c0 12c2 12c5 12c8 12d6 12d8 1310 1312 1315 1318 135a 135d 137c
  1380 1399 13a0 13f5 13f8 13fd 1400 167f 1681 169c 16a0 16f8 1700 1715 171f 1736 1740 1753
  1760 176c 176e 1770 1772 1773 1780 17dd 17e0 17e9 17f0 17f9 1800 180d 180f 1819 1820 1878
  1880 18aa 18b0 18f5 1900 191e 1920 192b 1930 193b 1940 1940 1944 196d 1970 1974 1980 19ab
  19b0 19c9 19d0 19da 19de 1a1b 1a1e 1a5e 1a60 1a7c 1a7f 1a89 1a90 1a99 1aa0 1aad 1ab0 1ace
  1b00 1b4c 1b50 1b7e 1b80 1bf3 1bfc 1c37 1c3b 1c49 1c4d 1c88 1c90 1cba 1cbd 1cc7 1cd0 1cfa
  1d00 1f15 1f18 1f1d 1f20 1f45 1f48 1f4d 1f50 1f57 1f59 1f59 1f5b 1f5b 1f5d 1f5d 1f5f 1f7d
  1f80 1fb4 1fb6 1fc4 1fc6 1fd3 1fd6 1fdb 1fdd 1fef 1ff2 1ff4 1ff6 1ffe 2010 2027 2030 205e
  2070 2071 2074 208e 2090 209c 20a0 20c0 20d0 20f0 2100 218b 2190 2426 2440 244a 2460 2b73
  2b76 2b95 2b97 2cf3 2cf9 2d25 2d27 2d27 2d2d 2d2d 2d30 2d67 2d6f 2d70 2d7f 2d96 2da0 2da6
  2da8 2dae 2db0 2db6 2db8 2dbe 2dc0 2dc6 2dc8 2dce 2dd0 2dd6 2dd8 2dde 2de0 2e5d 2e80 2e99
  2e9b 2ef3 2f00 2fd5 2ff0 2ffb 3001 303f 3041 3096 3099 30ff 3105 312f 3131 318e 3190 31e3
  31f0 321e 3220 a48c a490 a4c6 a4d0 a62b a640 a6f7 a700 a7ca a7d0 a7d1 a7d3 a7d3 a7d5 a7d9
  a7f2 a82c a830 a839 a840 a877 a880 a8c5 a8ce a8d9 a8e0 a953 a95f a97c a980 a9cd a9cf a9d9
  a9de a9fe aa00 aa36 aa40 aa4d aa50 aa59 aa5c aac2 aadb aaf6 ab01 ab06 ab09 ab0e ab11 ab16
  ab20 ab26 ab28 ab2e ab30 ab6b ab70 abed abf0 abf9 ac00 d7a3 d7b0 d7c6 d7cb d7fb f900 fa6d
  fa70 fad9 fb00 fb06 fb13 fb17 fb1d fb36 fb38 fb3c fb3e fb3e fb40 fb41 fb43 fb44 fb46 fbc2
  fbd3 fd8f fd92 fdc7 fdcf fdcf fdf0 fe19 fe20 fe52 fe54 fe66 fe68 fe6b fe70 fe74 fe76 fefc
  ff01 ffbe ffc2 ffc7 ffca ffcf ffd2 ffd7 ffda ffdc ffe0 ffe6 ffe8 ffee fffc fffd 10000 1000b
  1000d 10026 10028 1003a 1003c 1003d 1003f 1004d 10050 1005d 10080 100fa 10100 10102
  10107 10133 10137 1018e 10190 1019c 101a0 101a0 101d0 101fd 10280 1029c 102a0 102d0
  102e0 102fb 10300 10323 1032d 1034a 10350 1037a 10380 1039d 1039f 103c3 103c8 103d5
  10400 1049d 104a0 104a9 104b0 104d3 104d8 104fb 10500 10527 10530 10563 1056f 1057a
  1057c 1058a 1058c 10592 10594 10595 10597 105a1 105a3 105b1 105b3 105b9 105bb 105bc
  10600 10736 10740 10755 10760 10767 10780 10785 10787 107b0 107b2 107ba 10800 10805
  10808 10808 1080a 10835 10837 10838 1083c 1083c 1083f 10855 10857 1089e 108a7 108af
  108e0 108f2 108f4 108f5 108fb 1091b 1091f 10939 1093f 1093f 10980 109b7 109bc 109cf
  109d2 10a03 10a05 10a06 10a0c 10a13 10a15 10a17 10a19 10a35 10a38 10a3a 10a3f 10a48
  10a50 10a58 10a60 10a9f 10ac0 10ae6 10aeb 10af6 10b00 10b35 10b39 10b55 10b58 10b72
  10b78 10b91 10b99 10b9c 10ba9 10baf 10c00 10c48 10c80 10cb2 10cc0 10cf2 10cfa 10d27
  10d30 10d39 10e60 10e7e 10e80 10ea9 10eab 10ead 10eb0 10eb1 10f00 10f27 10f30 10f59
  10f70 10f89 10fb0 10fcb 10fe0 10ff6 11000 1104d 11052 11075 1107f 110bc 110be 110c2
  110d0 110e8 110f0 110f9 11100 11134 11136 11147 11150 11176 11180 111df 111e1 111f4
  11200 11211 11213 1123e 11280 11286 11288 11288 1128a 1128d 1128f 1129d 1129f 112a9
  112b0 112ea 112f0 112f9 11300 11303 11305 1130c 1130f 11310 11313 11328 1132a 11330
  11332 11333 11335 11339 1133b 11344 11347 11348 1134b 1134d 11350 11350 11357 11357
  1135d 11363 11366 1136c 11370 11374 11400 1145b 1145d 11461 11480 114c7 114d0 114d9
  11580 115b5 115b8 115dd 11600 11644 11650 11659 11660 1166c 11680 116b9 116c0 116c9
  11700 1171a 1171d 1172b 11730 11746 11800 1183b 118a0 118f2 118ff 11906 11909 11909
  1190c 11913 11915 11916 11918 11935 11937 11938 1193b 11946 11950 11959 119a0 119a7
  119aa 119d7 119da 119e4 11a00 11a47 11a50 11aa2 11ab0 11af8 11c00 11c08 11c0a 11c36
  11c38 11c45 11c50 11c6c 11c70 11c8f 11c92 11ca7 11ca9 11cb6 11d00 11d06 11d08 11d09
  11d0b 11d36 11d3a 11d3a 11d3c 11d3d 11d3f 11d47 11d50 11d59 11d60 11d65 11d67 11d68
  11d6a 11d8e 11d90 11d91 11d93 11d98 11da0 11da9 11ee0 11ef8 11fb0 11fb0 11fc0 11ff1
  11fff 12399 12400 1246e 12470 12474 12480 12543 12f90 12ff2 13000 1342e 14400 14646
  16800 16a38 16a40 16a5e 16a60 16a69 16a6e 16abe 16ac0 16ac9 16ad0 16aed 16af0 16af5
  16b00 16b45 16b50 16b59 16b5b 16b61 16b63 16b77 16b7d 16b8f 16e40 16e9a 16f00 16f4a
  16f4f 16f87 16f8f 16f9f 16fe0 16fe4 16ff0 16ff1 17000 187f7 18800 18cd5 18d00 18d08
  1aff0 1aff3 1aff5 1affb 1affd 1affe 1b000 1b122 1b150 1b152 1b164 1b167 1b170 1b2fb
  1bc00 1bc6a 1bc70 1bc7c 1bc80 1bc88 1bc90 1bc99 1bc9c 1bc9f 1cf00 1cf2d 1cf30 1cf46
  1cf50 1cfc3 1d000 1d0f5 1d100 1d126 1d129 1d172 1d17b 1d1ea 1d200 1d245 1d2e0 1d2f3
  1d300 1d356 1d360 1d378 1d400 1d454 1d456 1d49c 1d49e 1d49f 1d4a2 1d4a2 1d4a5 1d4a6
  1d4a9 1d4ac 1d4ae 1d4b9 1d4bb 1d4bb 1d4bd 1d4c3 1d4c5 1d505 1d507 1d50a 1d50d 1d514
  1d516 1d51c 1d51e 1d539 1d53b 1d53e 1d540 1d544 1d546 1d546 1d54a 1d550 1d552 1d6a5
  1d6a8 1d7cb 1d7ce 1da8b 1da9b 1da9f 1daa1 1daaf 1df00 1df1e 1e000 1e006 1e008 1e018
  1e01b 1e021 1e023 1e024 1e026 1e02a 1e100 1e12c 1e130 1e13d 1e140 1e149 1e14e 1e14f
  1e290 1e2ae 1e2c0 1e2f9 1e2ff 1e2ff 1e7e0 1e7e6 1e7e8 1e7eb 1e7ed 1e7ee 1e7f0 1e7fe
  1e800 1e8c4 1e8c7 1e8d6 1e900 1e94b 1e950 1e959 1e95e 1e95f 1ec71 1ecb4 1ed01 1ed3d
  1ee00 1ee03 1ee05 1ee1f 1ee21 1ee22 1ee24 1ee24 1ee27 1ee27 1ee29 1ee32 1ee34 1ee37
  1ee39 1ee39 1ee3b 1ee3b 1ee42 1ee42 1ee47 1ee47 1ee49 1ee49 1ee4b 1ee4b 1ee4d 1ee4f
  1ee51 1ee52 1ee54 1ee54 1ee57 1ee57 1ee59 1ee59 1ee5b 1ee5b 1ee5d 1ee5d 1ee5f 1ee5f
  1ee61 1ee62 1ee64 1ee64 1ee67 1ee6a 1ee6c 1ee72 1ee74 1ee77 1ee79 1ee7c 1ee7e 1ee7e
  1ee80 1ee89 1ee8b 1ee9b 1eea1 1eea3 1eea5 1eea9 1eeab 1eebb 1eef0 1eef1 1f000 1f02b
  1f030 1f093 1f0a0 1f0ae 1f0b1 1f0bf 1f0c1 1f0cf 1f0d1 1f0f5 1f100 1f1ad 1f1e6 1f202
  1f210 1f23b 1f240 1f248 1f250 1f251 1f260 1f265 1f300 1f6d7 1f6dd 1f6ec 1f6f0 1f6fc
  1f700 1f773 1f780 1f7d8 1f7e0 1f7eb 1f7f0 1f7f0 1f800 1f80b 1f810 1f847 1f850 1f859
  1f860 1f887 1f890 1f8ad 1f8b0 1f8b1 1f900 1fa53 1fa60 1fa6d 1fa70 1fa74 1fa78 1fa7c
  1fa80 1fa86 1fa90 1faac 1fab0 1faba 1fac0 1fac5 1fad0 1fad9 1fae0 1fae7 1faf0 1faf6
  1fb00 1fb92 1fb94 1fbca 1fbf0 1fbf9 20000 2a6df 2a700 2b738 2b740 2b81d 2b820 2cea1
  2ceb0 2ebe0 2f800 2fa1d 30000 3134a e0100 e01ef"

/-- Letters with case, those that a case rule skips left out. -/
def cased : CodeRanges := .ofText "
  41 5a 61 7a aa aa b5 b5 ba ba c0 d6 d8 f6 f8 1ba 1bc 1bf 1c4 293 295 2af 370 373 376 377
  37b 37d 37f 37f 386 386 388 38a 38c 38c 38e 3a1 3a3 3f5 3f7 481 48a 52f 531 556 560 588
  10a0 10c5 10c7 10c7 10cd 10cd 10d0 10fa 10fd 10ff 13a0 13f5 13f8 13fd 1c80 1c88 1c90 1cba
  1cbd 1cbf 1d00 1d2b 1d6b 1d77 1d79 1d9a 1e00 1f15 1f18 1f1d 1f20 1f45 1f48 1f4d 1f50 1f57
  1f59 1f59 1f5b 1f5b 1f5d 1f5d 1f5f 1f7d 1f80 1fb4 1fb6 1fbc 1fbe 1fbe 1fc2 1fc4 1fc6 1fcc
  1fd0 1fd3 1fd6 1fdb 1fe0 1fec 1ff2 1ff4 1ff6 1ffc 2102 2102 2107 2107 210a 2113 2115 2115
  2119 211d 2124 2124 2126 2126 2128 2128 212a 212d 212f 2134 2139 2139 213c 213f 2145 2149
  214e 214e 2160 217f 2183 2184 24b6 24e9 2c00 2c7b 2c7e 2ce4 2ceb 2cee 2cf2 2cf3 2d00 2d25
  2d27 2d27 2d2d 2d2d a640 a66d a680 a69b a722 a76f a771 a787 a78b a78e a790 a7ca a7d0 a7d1
  a7d3 a7d3 a7d5 a7d9 a7f5 a7f6 a7fa a7fa ab30 ab5a ab60 ab68 ab70 abbf fb00 fb06 fb13 fb17
  ff21 ff3a ff41 ff5a 10400 1044f 104b0 104d3 104d8 104fb 10570 1057a 1057c 1058a 1058c 10592
  10594 10595 10597 105a1 105a3 105b1 105b3 105b9 105bb 105bc 10c80 10cb2 10cc0 10cf2
  118a0 118df 16e40 16e7f 1d400 1d454 1d456 1d49c 1d49e 1d49f 1d4a2 1d4a2 1d4a5 1d4a6
  1d4a9 1d4ac 1d4ae 1d4b9 1d4bb 1d4bb 1d4bd 1d4c3 1d4c5 1d505 1d507 1d50a 1d50d 1d514
  1d516 1d51c 1d51e 1d539 1d53b 1d53e 1d540 1d544 1d546 1d546 1d54a 1d550 1d552 1d6a5
  1d6a8 1d6c0 1d6c2 1d6da 1d6dc 1d6fa 1d6fc 1d714 1d716 1d734 1d736 1d74e 1d750 1d76e
  1d770 1d788 1d78a 1d7a8 1d7aa 1d7c2 1d7c4 1d7cb 1df00 1df09 1df0b 1df1e 1e900 1e943
  1f130 1f149 1f150 1f169 1f170 1f189"

/-- Characters that a case rule skips. -/
def caseIgnorable : CodeRanges := .ofText "
  27 27 2e 2e 3a 3a 5e 5e 60 60 a8 a8 ad ad af af b4 b4 b7 b8 2b0 36f 374 375 37a 37a 384 385
  387 387 483 489 559 559 55f 55f 591 5bd 5bf 5bf 5c1 5c2 5c4 5c5 5c7 5c7 5f4 5f4 600 605
  610 61a 61c 61c 640 640 64b 65f 670 670 6d6 6dd 6df 6e8 6ea 6ed 70f 70f 711 711 730 74a
  7a6 7b0 7eb 7f5 7fa 7fa 7fd 7fd 816 82d 859 85b 888 888 890 891 898 89f 8c9 902 93a 93a
  93c 93c 941 948 94d 94d 951 957 962 963 971 971 981 981 9bc 9bc 9c1 9c4 9cd 9cd 9e2 9e3
  9fe 9fe a01 a02 a3c a3c a41 a42 a47 a48 a4b a4d a51 a51 a70 a71 a75 a75 a81 a82 abc abc
  ac1 ac5 ac7 ac8 acd acd ae2 ae3 afa aff b01 b01 b3c b3c b3f b3f b41 b44 b4d b4d b55 b56
  b62 b63 b82 b82 bc0 bc0 bcd bcd c00 c00 c04 c04 c3c c3c c3e c40 c46 c48 c4a c4d c55 c56
  c62 c63 c81 c81 cbc cbc cbf cbf cc6 cc6 ccc ccd ce2 ce3 d00 d01 d3b d3c d41 d44 d4d d4d
  d62 d63 d81 d81 dca dca dd2 dd4 dd6 dd6 e31 e31 e34 e3a e46 e4e eb1 eb1 eb4 ebc ec6 ec6
  ec8 ecd f18 f19 f35 f35 f37 f37 f39 f39 f71 f7e f80 f84 f86 f87 f8d f97 f99 fbc fc6 fc6
  102d 1030 1032 1037 1039 103a 103d 103e 1058 1059 105e 1060 1071 1074 1082 1082 1085 1086
  108d 108d 109d 109d 10fc 10fc 135d 135f 1712 1714 1732 1733 1752 1753 1772 1773 17b4 17b5
  17b7 17bd 17c6 17c6 17c9 17d3 17d7 17d7 17dd 17dd 180b 180f 1843 1843 1885 1886 18a9 18a9
  1920 1922 1927 1928 1932 1932 1939 193b 1a17 1a18 1a1b 1a1b 1a56 1a56 1a58 1a5e 1a60 1a60
  1a62 1a62 1a65 1a6c 1a73 1a7c 1a7f 1a7f 1aa7 1aa7 1ab0 1ace 1b00 1b03 1b34 1b34 1b36 1b3a
  1b3c 1b3c 1b42 1b42 1b6b 1b73 1b80 1b81 1ba2 1ba5 1ba8 1ba9 1bab 1bad 1be6 1be6 1be8 1be9
  1bed 1bed 1bef 1bf1 1c2c 1c33 1c36 1c37 1c78 1c7d 1cd0 1cd2 1cd4 1ce0 1ce2 1ce8 1ced 1ced
  1cf4 1cf4 1cf8 1cf9 1d2c 1d6a 1d78 1d78 1d9b 1dff 1fbd 1fbd 1fbf 1fc1 1fcd 1fcf 1fdd 1fdf
  1fed 1fef 1ffd 1ffe 200b 200f 2018 2019 2024 2024 2027 2027 202a 202e 2060 2064 2066 206f
  2071 2071 207f 207f 2090 209c 20d0 20f0 2c7c 2c7d 2cef 2cf1 2d6f 2d6f 2d7f 2d7f 2de0 2dff
  2e2f 2e2f 3005 3005 302a 302d 3031 3035 303b 303b 3099 309e 30fc 30fe a015 a015 a4f8 a4fd
  a60c a60c a66f a672 a674 a67d a67f a67f a69c a69f a6f0 a6f1 a700 a721 a770 a770 a788 a78a
  a7f2 a7f4 a7f8 a7f9 a802 a802 a806 a806 a80b a80b a825 a826 a82c a82c a8c4 a8c5 a8e0 a8f1
  a8ff a8ff a926 a92d a947 a951 a980 a982 a9b3 a9b3 a9b6 a9b9 a9bc a9bd a9cf a9cf a9e5 a9e6
  aa29 aa2e aa31 aa32 aa35 aa36 aa43 aa43 aa4c aa4c aa70 aa70 aa7c aa7c aab0 aab0 aab2 aab4
  aab7 aab8 aabe aabf aac1 aac1 aadd aadd aaec aaed aaf3 aaf4 aaf6 aaf6 ab5b ab5f ab69 ab6b
  abe5 abe5 abe8 abe8 abed abed fb1e fb1e fbb2 fbc2 fe00 fe0f fe13 fe13 fe20 fe2f fe52 fe52
  fe55 fe55 feff feff ff07 ff07 ff0e ff0e ff1a ff1a ff3e ff3e ff40 ff40 ff70 ff70 ff9e ff9f
  ffe3 ffe3 fff9 fffb 101fd 101fd 102e0 102e0 10376 1037a 10780 10785 10787 107b0 107b2 107ba
  10a01 10a03 10a05 10a06 10a0c 10a0f 10a38 10a3a 10a3f 10a3f 10ae5 10ae6 10d24 10d27
  10eab 10eac 10f46 10f50 10f82 10f85 11001 11001 11038 11046 11070 11070 11073 11074
  1107f 11081 110b3 110b6 110b9 110ba 110bd 110bd 110c2 110c2 110cd 110cd 11100 11102
  11127 1112b 1112d 11134 11173 11173 11180 11181 111b6 111be 111c9 111cc 111cf 111cf
  1122f 11231 11234 11234 11236 11237 1123e 1123e 112df 112df 112e3 112ea 11300 11301
  1133b 1133c 11340 11340 11366 1136c 11370 11374 11438 1143f 11442 11444 11446 11446
  1145e 1145e 114b3 114b8 114ba 114ba 114bf 114c0 114c2 114c3 115b2 115b5 115bc 115bd
  115bf 115c0 115dc 115dd 11633 1163a 1163d 1163d 1163f 11640 116ab 116ab 116ad 116ad
  116b0 116b5 116b7 116b7 1171d 1171f 11722 11725 11727 1172b 1182f 11837 11839 1183a
  1193b 1193c 1193e 1193e 11943 11943 119d4 119d7 119da 119db 119e0 119e0 11a01 11a0a
  11a33 11a38 11a3b 11a3e 11a47 11a47 11a51 11a56 11a59 11a5b 11a8a 11a96 11a98 11a99
  11c30 11c36 11c38 11c3d 11c3f 11c3f 11c92 11ca7 11caa 11cb0 11cb2 11cb3 11cb5 11cb6
  11d31 11d36 11d3a 11d3a 11d3c 11d3d 11d3f 11d45 11d47 11d47 11d90 11d91 11d95 11d95
  11d97 11d97 11ef3 11ef4 13430 13438 16af0 16af4 16b30 16b36 16b40 16b43 16f4f 16f4f
  16f8f 16f9f 16fe0 16fe1 16fe3 16fe4 1aff0 1aff3 1aff5 1affb 1affd 1affe 1bc9d 1bc9e
  1bca0 1bca3 1cf00 1cf2d 1cf30 1cf46 1d167 1d169 1d173 1d182 1d185 1d18b 1d1aa 1d1ad
  1d242 1d244 1da00 1da36 1da3b 1da6c 1da75 1da75 1da84 1da84 1da9b 1da9f 1daa1 1daaf
  1e000 1e006 1e008 1e018 1e01b 1e021 1e023 1e024 1e026 1e02a 1e130 1e13d 1e2ae 1e2ae
  1e2ec 1e2ef 1e8d0 1e8d6 1e944 1e94b 1f3fb 1f3ff e0001 e0001 e0020 e007f e0100 e01ef"

/-- Lower case images of single characters. -/
def lowerRuns : CaseRuns where
  runs :=
    [(0x41, 0x5a, 0x1, 0x61), (0xc0, 0xd6, 0x1, 0xe0), (0xd8, 0xde, 0x1, 0xf8),
      (0x100, 0x12e, 0x2, 0x101), (0x132, 0x136, 0x2, 0x133), (0x139, 0x147, 0x2, 0x13a),
      (0x14a, 0x176, 0x2, 0x14b), (0x178, 0x178, 0x1, 0xff), (0x179, 0x17d, 0x2, 0x17a),
      (0x181, 0x181, 0x1, 0x253), (0x182, 0x184, 0x2, 0x183), (0x186, 0x186, 0x1, 0x254),
      (0x187, 0x187, 0x1, 0x188), (0x189, 0x18a, 0x1, 0x256), (0x18b, 0x18b, 0x1, 0x18c),
      (0x18e, 0x18e, 0x1, 0x1dd), (0x18f, 0x18f, 0x1, 0x259), (0x190, 0x190, 0x1, 0x25b),
      (0x191, 0x191, 0x1, 0x192), (0x193, 0x193, 0x1, 0x260), (0x194, 0x194, 0x1, 0x263),
      (0x196, 0x196, 0x1, 0x269), (0x197, 0x197, 0x1, 0x268), (0x198, 0x198, 0x1, 0x199),
      (0x19c, 0x19c, 0x1, 0x26f), (0x19d, 0x19d, 0x1, 0x272), (0x19f, 0x19f, 0x1, 0x275),
      (0x1a0, 0x1a4, 0x2, 0x1a1), (0x1a6, 0x1a6, 0x1, 0x280), (0x1a7, 0x1a7, 0x1, 0x1a8),
      (0x1a9, 0x1a9, 0x1, 0x283), (0x1ac, 0x1ac, 0x1, 0x1ad), (0x1ae, 0x1ae, 0x1, 0x288),
      (0x1af, 0x1af, 0x1, 0x1b0), (0x1b1, 0x1b2, 0x1, 0x28a), (0x1b3, 0x1b5, 0x2, 0x1b4),
      (0x1b7, 0x1b7, 0x1, 0x292), (0x1b8, 0x1b8, 0x1, 0x1b9), (0x1bc, 0x1bc, 0x1, 0x1bd),
      (0x1c4, 0x1c4, 0x1, 0x1c6), (0x1c5, 0x1c5, 0x1, 0x1c6), (0x1c7, 0x1c7, 0x1, 0x1c9),
      (0x1c8, 0x1c8, 0x1, 0x1c9), (0x1ca, 0x1ca, 0x1, 0x1cc), (0x1cb, 0x1db, 0x2, 0x1cc),
      (0x1de, 0x1ee, 0x2, 0x1df), (0x1f1, 0x1f1, 0x1, 0x1f3), (0x1f2, 0x1f4, 0x2, 0x1f3),
      (0x1f6, 0x1f6, 0x1, 0x195), (0x1f7, 0x1f7, 0x1, 0x1bf), (0x1f8, 0x21e, 0x2, 0x1f9),
      (0x220, 0x220, 0x1, 0x19e), (0x222, 0x232, 0x2, 0x223), (0x23a, 0x23a, 0x1, 0x2c65),
      (0x23b, 0x23b, 0x1, 0x23c), (0x23d, 0x23d, 0x1, 0x19a), (0x23e, 0x23e, 0x1, 0x2c66),
      (0x241, 0x241, 0x1, 0x242), (0x243, 0x243, 0x1, 0x180), (0x244, 0x244, 0x1, 0x289),
      (0x245, 0x245, 0x1, 0x28c), (0x246, 0x24e, 0x2, 0x247), (0x370, 0x372, 0x2, 0x371),
      (0x376, 0x376, 0x1, 0x377), (0x37f, 0x37f, 0x1, 0x3f3), (0x386, 0x386, 0x1, 0x3ac),
      (0x388, 0x38a, 0x1, 0x3ad), (0x38c, 0x38c, 0x1, 0x3cc), (0x38e, 0x38f, 0x1, 0x3cd),
      (0x391, 0x3a1, 0x1, 0x3b1), (0x3a3, 0x3ab, 0x1, 0x3c3), (0x3cf, 0x3cf, 0x1, 0x3d7),
      (0x3d8, 0x3ee, 0x2, 0x3d9), (0x3f4, 0x3f4, 0x1, 0x3b8), (0x3f7, 0x3f7, 0x1, 0x3f8),
      (0x3f9, 0x3f9, 0x1, 0x3f2), (0x3fa, 0x3fa, 0x1, 0x3fb), (0x3fd, 0x3ff, 0x1, 0x37b),
      (0x400, 0x40f, 0x1, 0x450), (0x410, 0x42f, 0x1, 0x430), (0x460, 0x480, 0x2, 0x461),
      (0x48a, 0x4be, 0x2, 0x48b), (0x4c0, 0x4c0, 0x1, 0x4cf), (0x4c1, 0x4cd, 0x2, 0x4c2),
      (0x4d0, 0x52e, 0x2, 0x4d1), (0x531, 0x556, 0x1, 0x561), (0x10a0, 0x10c5, 0x1, 0x2d00),
      (0x10c7, 0x10c7, 0x1, 0x2d27), (0x10cd, 0x10cd, 0x1, 0x2d2d), (0x13a0, 0x13ef, 0x1, 0xab70),
      (0x13f0, 0x13f5, 0x1, 0x13f8), (0x1c90, 0x1cba, 0x1, 0x10d0), (0x1cbd, 0x1cbf, 0x1, 0x10fd),
      (0x1e00, 0x1e94, 0x2, 0x1e01), (0x1e9e, 0x1e9e, 0x1, 0xdf), (0x1ea0, 0x1efe, 0x2, 0x1ea1),
      (0x1f08, 0x1f0f, 0x1, 0x1f00), (0x1f18, 0x1f1d, 0x1, 0x1f10), (0x1f28, 0x1f2f, 0x1, 0x1f20),
      (0x1f38, 0x1f3f, 0x1, 0x1f30), (0x1f48, 0x1f4d, 0x1, 0x1f40), (0x1f59, 0x1f5f, 0x2, 0x1f51),
      (0x1f68, 0x1f6f, 0x1, 0x1f60), (0x1f88, 0x1f8f, 0x1, 0x1f80), (0x1f98, 0x1f9f, 0x1, 0x1f90),
      (0x1fa8, 0x1faf, 0x1, 0x1fa0), (0x1fb8, 0x1fb9, 0x1, 0x1fb0), (0x1fba, 0x1fbb, 0x1, 0x1f70),
      (0x1fbc, 0x1fbc, 0x1, 0x1fb3), (0x1fc8, 0x1fcb, 0x1, 0x1f72), (0x1fcc, 0x1fcc, 0x1, 0x1fc3),
      (0x1fd8, 0x1fd9, 0x1, 0x1fd0), (0x1fda, 0x1fdb, 0x1, 0x1f76), (0x1fe8, 0x1fe9, 0x1, 0x1fe0),
      (0x1fea, 0x1feb, 0x1, 0x1f7a), (0x1fec, 0x1fec, 0x1, 0x1fe5), (0x1ff8, 0x1ff9, 0x1, 0x1f78),
      (0x1ffa, 0x1ffb, 0x1, 0x1f7c), (0x1ffc, 0x1ffc, 0x1, 0x1ff3), (0x2126, 0x2126, 0x1, 0x3c9),
      (0x212a, 0x212a, 0x1, 0x6b), (0x212b, 0x212b, 0x1, 0xe5), (0x2132, 0x2132, 0x1, 0x214e),
      (0x2160, 0x216f, 0x1, 0x2170), (0x2183, 0x2183, 0x1, 0x2184), (0x24b6, 0x24cf, 0x1, 0x24d0),
      (0x2c00, 0x2c2f, 0x1, 0x2c30), (0x2c60, 0x2c60, 0x1, 0x2c61), (0x2c62, 0x2c62, 0x1, 0x26b),
      (0x2c63, 0x2c63, 0x1, 0x1d7d), (0x2c64, 0x2c64, 0x1, 0x27d), (0x2c67, 0x2c6b, 0x2, 0x2c68),
      (0x2c6d, 0x2c6d, 0x1, 0x251), (0x2c6e, 0x2c6e, 0x1, 0x271), (0x2c6f, 0x2c6f, 0x1, 0x250),
      (0x2c70, 0x2c70, 0x1, 0x252), (0x2c72, 0x2c72, 0x1, 0x2c73), (0x2c75, 0x2c75, 0x1, 0x2c76),
      (0x2c7e, 0x2c7f, 0x1, 0x23f), (0x2c80, 0x2ce2, 0x2, 0x2c81), (0x2ceb, 0x2ced, 0x2, 0x2cec),
      (0x2cf2, 0x2cf2, 0x1, 0x2cf3), (0xa640, 0xa66c, 0x2, 0xa641), (0xa680, 0xa69a, 0x2, 0xa681),
      (0xa722, 0xa72e, 0x2, 0xa723), (0xa732, 0xa76e, 0x2, 0xa733), (0xa779, 0xa77b, 0x2, 0xa77a),
      (0xa77d, 0xa77d, 0x1, 0x1d79), (0xa77e, 0xa786, 0x2, 0xa77f), (0xa78b, 0xa78b, 0x1, 0xa78c),
      (0xa78d, 0xa78d, 0x1, 0x265), (0xa790, 0xa792, 0x2, 0xa791), (0xa796, 0xa7a8, 0x2, 0xa797),
      (0xa7aa, 0xa7aa, 0x1, 0x266), (0xa7ab, 0xa7ab, 0x1, 0x25c), (0xa7ac, 0xa7ac, 0x1, 0x261),
      (0xa7ad, 0xa7ad, 0x1, 0x26c), (0xa7ae, 0xa7ae, 0x1, 0x26a), (0xa7b0, 0xa7b0, 0x1, 0x29e),
      (0xa7b1, 0xa7b1, 0x1, 0x287), (0xa7b2, 0xa7b2, 0x1, 0x29d), (0xa7b3, 0xa7b3, 0x1, 0xab53),
      (0xa7b4, 0xa7c2, 0x2, 0xa7b5), (0xa7c4, 0xa7c4, 0x1, 0xa794), (0xa7c5, 0xa7c5, 0x1, 0x282),
      (0xa7c6, 0xa7c6, 0x1, 0x1d8e), (0xa7c7, 0xa7c9, 0x2, 0xa7c8), (0xa7d0, 0xa7d0, 0x1, 0xa7d1),
      (0xa7d6, 0xa7d8, 0x2, 0xa7d7), (0xa7f5, 0xa7f5, 0x1, 0xa7f6), (0xff21, 0xff3a, 0x1, 0xff41),
      (0x10400, 0x10427, 0x1, 0x10428), (0x104b0, 0x104d3, 0x1, 0x104d8),
      (0x10570, 0x1057a, 0x1, 0x10597), (0x1057c, 0x1058a, 0x1, 0x105a3),
      (0x1058c, 0x10592, 0x1, 0x105b3), (0x10594, 0x10595, 0x1, 0x105bb),
      (0x10c80, 0x10cb2, 0x1, 0x10cc0), (0x118a0, 0x118bf, 0x1, 0x118c0),
      (0x16e40, 0x16e5f, 0x1, 0x16e60), (0x1e900, 0x1e921, 0x1, 0x1e922)]

/-- Lower case images of more than one character. -/
def lowerSpecials : CaseSpecials where
  entries := [(0x130, 0x69, 0x307, 0x0)]

/-- Upper case images of single characters. -/
def upperRuns : CaseRuns := .ofText "
  61 7a 1 41 b5 b5 1 39c e0 f6 1 c0 f8 fe 1 d8 ff ff 1 178 101 12f 2 100 131 131 1 49
  133 137 2 132 13a 148 2 139 14b 177 2 14a 17a 17e 2 179 17f 17f 1 53 180 180 1 243
  183 185 2 182 188 188 1 187 18c 18c 1 18b 192 192 1 191 195 195 1 1f6 199 199 1 198
  19a 19a 1 23d 19e 19e 1 220 1a1 1a5 2 1a0 1a8 1a8 1 1a7 1ad 1ad 1 1ac 1b0 1b0 1 1af
  1b4 1b6 2 1b3 1b9 1b9 1 1b8 1bd 1bd 1 1bc 1bf 1bf 1 1f7 1c5 1c5 1 1c4 1c6 1c6 1 1c4
  1c8 1c8 1 1c7 1c9 1c9 1 1c7 1cb 1cb 1 1ca 1cc 1cc 1 1ca 1ce 1dc 2 1cd 1dd 1dd 1 18e
  1df 1ef 2 1de 1f2 1f2 1 1f1 1f3 1f3 1 1f1 1f5 1f5 1 1f4 1f9 21f 2 1f8 223 233 2 222
  23c 23c 1 23b 23f 240 1 2c7e 242 242 1 241 247 24f 2 246 250 250 1 2c6f 251 251 1 2c6d
  252 252 1 2c70 253 253 1 181 254 254 1 186 256 257 1 189 259 259 1 18f 25b 25b 1 190
  25c 25c 1 a7ab 260 260 1 193 261 261 1 a7ac 263 263 1 194 265 265 1 a78d 266 266 1 a7aa
  268 268 1 197 269 269 1 196 26a 26a 1 a7ae 26b 26b 1 2c62 26c 26c 1 a7ad 26f 26f 1 19c
  271 271 1 2c6e 272 272 1 19d 275 275 1 19f 27d 27d 1 2c64 280 280 1 1a6 282 282 1 a7c5
  283 283 1 1a9 287 287 1 a7b1 288 288 1 1ae 289 289 1 244 28a 28b 1 1b1 28c 28c 1 245
  292 292 1 1b7 29d 29d 1 a7b2 29e 29e 1 a7b0 345 345 1 399 371 373 2 370 377 377 1 376
  37b 37d 1 3fd 3ac 3ac 1 386 3ad 3af 1 388 3b1 3c1 1 391 3c2 3c2 1 3a3 3c3 3cb 1 3a3
  3cc 3cc 1 38c 3cd 3ce 1 38e 3d0 3d0 1 392 3d1 3d1 1 398 3d5 3d5 1 3a6 3d6 3d6 1 3a0
  3d7 3d7 1 3cf 3d9 3ef 2 3d8 3f0 3f0 1 39a 3f1 3f1 1 3a1 3f2 3f2 1 3f9 3f3 3f3 1 37f
  3f5 3f5 1 395 3f8 3f8 1 3f7 3fb 3fb 1 3fa 430 44f 1 410 450 45f 1 400 461 481 2 460
  48b 4bf 2 48a 4c2 4ce 2 4c1 4cf 4cf 1 4c0 4d1 52f 2 4d0 561 586 1 531 10d0 10fa 1 1c90
  10fd 10ff 1 1cbd 13f8 13fd 1 13f0 1c80 1c80 1 412 1c81 1c81 1 414 1c82 1c82 1 41e
  1c83 1c84 1 421 1c85 1c85 1 422 1c86 1c86 1 42a 1c87 1c87 1 462 1c88 1c88 1 a64a
  1d79 1d79 1 a77d 1d7d 1d7d 1 2c63 1d8e 1d8e 1 a7c6 1e01 1e95 2 1e00 1e9b 1e9b 1 1e60
  1ea1 1eff 2 1ea0 1f00 1f07 1 1f08 1f10 1f15 1 1f18 1f20 1f27 1 1f28 1f30 1f37 1 1f38
  1f40 1f45 1 1f48 1f51 1f57 2 1f59 1f60 1f67 1 1f68 1f70 1f71 1 1fba 1f72 1f75 1 1fc8
  1f76 1f77 1 1fda 1f78 1f79 1 1ff8 1f7a 1f7b 1 1fea 1f7c 1f7d 1 1ffa 1fb0 1fb1 1 1fb8
  1fbe 1fbe 1 399 1fd0 1fd1 1 1fd8 1fe0 1fe1 1 1fe8 1fe5 1fe5 1 1fec 214e 214e 1 2132
  2170 217f 1 2160 2184 2184 1 2183 24d0 24e9 1 24b6 2c30 2c5f 1 2c00 2c61 2c61 1 2c60
  2c65 2c65 1 23a 2c66 2c66 1 23e 2c68 2c6c 2 2c67 2c73 2c73 1 2c72 2c76 2c76 1 2c75
  2c81 2ce3 2 2c80 2cec 2cee 2 2ceb 2cf3 2cf3 1 2cf2 2d00 2d25 1 10a0 2d27 2d27 1 10c7
  2d2d 2d2d 1 10cd a641 a66d 2 a640 a681 a69b 2 a680 a723 a72f 2 a722 a733 a76f 2 a732
  a77a a77c 2 a779 a77f a787 2 a77e a78c a78c 1 a78b a791 a793 2 a790 a794 a794 1 a7c4
  a797 a7a9 2 a796 a7b5 a7c3 2 a7b4 a7c8 a7ca 2 a7c7 a7d1 a7d1 1 a7d0 a7d7 a7d9 2 a7d6
  a7f6 a7f6 1 a7f5 ab53 ab53 1 a7b3 ab70 abbf 1 13a0 ff41 ff5a 1 ff21 10428 1044f 1 10400
  104d8 104fb 1 104b0 10597 105a1 1 10570 105a3 105b1 1 1057c 105b3 105b9 1 1058c
  105bb 105bc 1 10594 10cc0 10cf2 1 10c80 118c0 118df 1 118a0 16e60 16e7f 1 16e40
  1e922 1e943 1 1e900"

/-- Upper case images of more than one character. -/
def upperSpecials : CaseSpecials := .ofText "
  df 53 53 0 149 2bc 4e 0 1f0 4a 30c 0 390 399 308 301 3b0 3a5 308 301 587 535 552 0
  1e96 48 331 0 1e97 54 308 0 1e98 57 30a 0 1e99 59 30a 0 1e9a 41 2be 0 1f50 3a5 313 0
  1f52 3a5 313 300 1f54 3a5 313 301 1f56 3a5 313 342 1f80 1f08 399 0 1f81 1f09 399 0
  1f82 1f0a 399 0 1f83 1f0b 399 0 1f84 1f0c 399 0 1f85 1f0d 399 0 1f86 1f0e 399 0
  1f87 1f0f 399 0 1f88 1f08 399 0 1f89 1f09 399 0 1f8a 1f0a 399 0 1f8b 1f0b 399 0
  1f8c 1f0c 399 0 1f8d 1f0d 399 0 1f8e 1f0e 399 0 1f8f 1f0f 399 0 1f90 1f28 399 0
  1f91 1f29 399 0 1f92 1f2a 399 0 1f93 1f2b 399 0 1f94 1f2c 399 0 1f95 1f2d 399 0
  1f96 1f2e 399 0 1f97 1f2f 399 0 1f98 1f28 399 0 1f99 1f29 399 0 1f9a 1f2a 399 0
  1f9b 1f2b 399 0 1f9c 1f2c 399 0 1f9d 1f2d 399 0 1f9e 1f2e 399 0 1f9f 1f2f 399 0
  1fa0 1f68 399 0 1fa1 1f69 399 0 1fa2 1f6a 399 0 1fa3 1f6b 399 0 1fa4 1f6c 399 0
  1fa5 1f6d 399 0 1fa6 1f6e 399 0 1fa7 1f6f 399 0 1fa8 1f68 399 0 1fa9 1f69 399 0
  1faa 1f6a 399 0 1fab 1f6b 399 0 1fac 1f6c 399 0 1fad 1f6d 399 0 1fae 1f6e 399 0
  1faf 1f6f 399 0 1fb2 1fba 399 0 1fb3 391 399 0 1fb4 386 399 0 1fb6 391 342 0 1fb7 391 342 399
  1fbc 391 399 0 1fc2 1fca 399 0 1fc3 397 399 0 1fc4 389 399 0 1fc6 397 342 0 1fc7 397 342 399
  1fcc 397 399 0 1fd2 399 308 300 1fd3 399 308 301 1fd6 399 342 0 1fd7 399 308 342
  1fe2 3a5 308 300 1fe3 3a5 308 301 1fe4 3a1 313 0 1fe6 3a5 342 0 1fe7 3a5 308 342
  1ff2 1ffa 399 0 1ff3 3a9 399 0 1ff4 38f 399 0 1ff6 3a9 342 0 1ff7 3a9 342 399 1ffc 3a9 399 0
  fb00 46 46 0 fb01 46 49 0 fb02 46 4c 0 fb03 46 46 49 fb04 46 46 4c fb05 53 54 0 fb06 53 54 0
  fb13 544 546 0 fb14 544 535 0 fb15 544 53b 0 fb16 54e 546 0 fb17 544 53d 0"

end Questline.Text.CharTable
