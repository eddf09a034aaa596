import CurlScribe.Text.Word
import Mathlib

namespace CurlScribe.Text

/-- The general categories (Unicode 14) that words and names are made of: `letter` is Lu, Ll, Lt, Lm
and Lo, `letterNumber` is Nl, `mark` is Mn and Mc, `digit` is Nd, `connector` is Pc, and
`otherNumber` is No. -/
inductive CharClass
  | letter
  | letterNumber
  | mark
  | digit
  | connector
  | otherNumber
  deriving DecidableEq

def basicClasses : List (Nat × Nat × CharClass) :=
  [(0x30, 0x39, .digit), (0x41, 0x5a, .letter), (0x5f, 0x5f, .connector), (0x61, 0x7a, .letter),
   (0xaa, 0xaa, .letter), (0xb2, 0xb3, .otherNumber), (0xb5, 0xb5, .letter),
   (0xb9, 0xb9, .otherNumber), (0xba, 0xba, .letter), (0xbc, 0xbe, .otherNumber),
   (0xc0, 0xd6, .letter), (0xd8, 0xf6, .letter), (0xf8, 0x2c1, .letter), (0x2c6, 0x2d1, .letter),
   (0x2e0, 0x2e4, .letter), (0x2ec, 0x2ec, .letter), (0x2ee, 0x2ee, .letter), (0x300, 0x36f, .mark),
   (0x370, 0x374, .letter), (0x376, 0x377, .letter), (0x37a, 0x37d, .letter),
   (0x37f, 0x37f, .letter), (0x386, 0x386, .letter), (0x388, 0x38a, .letter),
   (0x38c, 0x38c, .letter), (0x38e, 0x3a1, .letter), (0x3a3, 0x3f5, .letter),
   (0x3f7, 0x481, .letter), (0x483, 0x487, .mark), (0x48a, 0x52f, .letter), (0x531, 0x556, .letter),
   (0x559, 0x559, .letter), (0x560, 0x588, .letter), (0x591, 0x5bd, .mark), (0x5bf, 0x5bf, .mark),
   (0x5c1, 0x5c2, .mark), (0x5c4, 0x5c5, .mark), (0x5c7, 0x5c7, .mark), (0x5d0, 0x5ea, .letter),
   (0x5ef, 0x5f2, .letter), (0x610, 0x61a, .mark), (0x620, 0x64a, .letter), (0x64b, 0x65f, .mark),
   (0x660, 0x669, .digit), (0x66e, 0x66f, .letter), (0x670, 0x670, .mark), (0x671, 0x6d3, .letter),
   (0x6d5, 0x6d5, .letter), (0x6d6, 0x6dc, .mark), (0x6df, 0x6e4, .mark), (0x6e5, 0x6e6, .letter),
   (0x6e7, 0x6e8, .mark), (0x6ea, 0x6ed, .mark), (0x6ee, 0x6ef, .letter), (0x6f0, 0x6f9, .digit),
   (0x6fa, 0x6fc, .letter), (0x6ff, 0x6ff, .letter), (0x710, 0x710, .letter), (0x711, 0x711, .mark),
   (0x712, 0x72f, .letter), (0x730, 0x74a, .mark), (0x74d, 0x7a5, .letter), (0x7a6, 0x7b0, .mark),
   (0x7b1, 0x7b1, .letter), (0x7c0, 0x7c9, .digit), (0x7ca, 0x7ea, .letter), (0x7eb, 0x7f3, .mark),
   (0x7f4, 0x7f5, .letter), (0x7fa, 0x7fa, .letter), (0x7fd, 0x7fd, .mark), (0x800, 0x815, .letter),
   (0x816, 0x819, .mark), (0x81a, 0x81a, .letter), (0x81b, 0x823, .mark), (0x824, 0x824, .letter),
   (0x825, 0x827, .mark), (0x828, 0x828, .letter), (0x829, 0x82d, .mark), (0x840, 0x858, .letter),
   (0x859, 0x85b, .mark), (0x860, 0x86a, .letter), (0x870, 0x887, .letter), (0x889, 0x88e, .letter),
   (0x898, 0x89f, .mark), (0x8a0, 0x8c9, .letter), (0x8ca, 0x8e1, .mark), (0x8e3, 0x903, .mark),
   (0x904, 0x939, .letter), (0x93a, 0x93c, .mark), (0x93d, 0x93d, .letter), (0x93e, 0x94f, .mark),
   (0x950, 0x950, .letter), (0x951, 0x957, .mark), (0x958, 0x961, .letter), (0x962, 0x963, .mark),
   (0x966, 0x96f, .digit), (0x971, 0x980, .letter), (0x981, 0x983, .mark), (0x985, 0x98c, .letter),
   (0x98f, 0x990, .letter), (0x993, 0x9a8, .letter), (0x9aa, 0x9b0, .letter),
   (0x9b2, 0x9b2, .letter), (0x9b6, 0x9b9, .letter), (0x9bc, 0x9bc, .mark), (0x9bd, 0x9bd, .letter),
   (0x9be, 0x9c4, .mark), (0x9c7, 0x9c8, .mark), (0x9cb, 0x9cd, .mark), (0x9ce, 0x9ce, .letter),
   (0x9d7, 0x9d7, .mark), (0x9dc, 0x9dd, .letter), (0x9df, 0x9e1, .letter), (0x9e2, 0x9e3, .mark),
   (0x9e6, 0x9ef, .digit), (0x9f0, 0x9f1, .letter), (0x9f4, 0x9f9, .otherNumber),
   (0x9fc, 0x9fc, .letter), (0x9fe, 0x9fe, .mark), (0xa01, 0xa03, .mark), (0xa05, 0xa0a, .letter),
   (0xa0f, 0xa10, .letter), (0xa13, 0xa28, .letter), (0xa2a, 0xa30, .letter),
   (0xa32, 0xa33, .letter), (0xa35, 0xa36, .letter), (0xa38, 0xa39, .letter), (0xa3c, 0xa3c, .mark),
   (0xa3e, 0xa42, .mark), (0xa47, 0xa48, .mark), (0xa4b, 0xa4d, .mark), (0xa51, 0xa51, .mark),
   (0xa59, 0xa5c, .letter), (0xa5e, 0xa5e, .letter), (0xa66, 0xa6f, .digit), (0xa70, 0xa71, .mark),
   (0xa72, 0xa74, .letter), (0xa75, 0xa75, .mark), (0xa81, 0xa83, .mark), (0xa85, 0xa8d, .letter),
   (0xa8f, 0xa91, .letter), (0xa93, 0xaa8, .letter), (0xaaa, 0xab0, .letter),
   (0xab2, 0xab3, .letter), (0xab5, 0xab9, .letter), (0xabc, 0xabc, .mark), (0xabd, 0xabd, .letter),
   (0xabe, 0xac5, .mark), (0xac7, 0xac9, .mark), (0xacb, 0xacd, .mark), (0xad0, 0xad0, .letter),
   (0xae0, 0xae1, .letter), (0xae2, 0xae3, .mark), (0xae6, 0xaef, .digit), (0xaf9, 0xaf9, .letter),
   (0xafa, 0xaff, .mark), (0xb01, 0xb03, .mark), (0xb05, 0xb0c, .letter), (0xb0f, 0xb10, .letter),
   (0xb13, 0xb28, .letter), (0xb2a, 0xb30, .letter), (0xb32, 0xb33, .letter),
   (0xb35, 0xb39, .letter), (0xb3c, 0xb3c, .mark), (0xb3d, 0xb3d, .letter), (0xb3e, 0xb44, .mark),
   (0xb47, 0xb48, .mark), (0xb4b, 0xb4d, .mark), (0xb55, 0xb57, .mark), (0xb5c, 0xb5d, .letter),
   (0xb5f, 0xb61, .letter), (0xb62, 0xb63, .mark), (0xb66, 0xb6f, .digit), (0xb71, 0xb71, .letter),
   (0xb72, 0xb77, .otherNumber), (0xb82, 0xb82, .mark), (0xb83, 0xb83, .letter),
   (0xb85, 0xb8a, .letter), (0xb8e, 0xb90, .letter), (0xb92, 0xb95, .letter),
   (0xb99, 0xb9a, .letter), (0xb9c, 0xb9c, .letter), (0xb9e, 0xb9f, .letter),
   (0xba3, 0xba4, .letter), (0xba8, 0xbaa, .letter), (0xbae, 0xbb9, .letter), (0xbbe, 0xbc2, .mark),
   (0xbc6, 0xbc8, .mark), (0xbca, 0xbcd, .mark), (0xbd0, 0xbd0, .letter), (0xbd7, 0xbd7, .mark),
   (0xbe6, 0xbef, .digit), (0xbf0, 0xbf2, .otherNumber), (0xc00, 0xc04, .mark),
   (0xc05, 0xc0c, .letter), (0xc0e, 0xc10, .letter), (0xc12, 0xc28, .letter),
   (0xc2a, 0xc39, .letter), (0xc3c, 0xc3c, .mark), (0xc3d, 0xc3d, .letter), (0xc3e, 0xc44, .mark),
   (0xc46, 0xc48, .mark), (0xc4a, 0xc4d, .mark), (0xc55, 0xc56, .mark), (0xc58, 0xc5a, .letter),
   (0xc5d, 0xc5d, .letter), (0xc60, 0xc61, .letter), (0xc62, 0xc63, .mark), (0xc66, 0xc6f, .digit),
   (0xc78, 0xc7e, .otherNumber), (0xc80, 0xc80, .letter), (0xc81, 0xc83, .mark),
   (0xc85, 0xc8c, .letter), (0xc8e, 0xc90, .letter), (0xc92, 0xca8, .letter),
   (0xcaa, 0xcb3, .letter), (0xcb5, 0xcb9, .letter), (0xcbc, 0xcbc, .mark), (0xcbd, 0xcbd, .letter),
   (0xcbe, 0xcc4, .mark), (0xcc6, 0xcc8, .mark), (0xcca, 0xccd, .mark), (0xcd5, 0xcd6, .mark),
   (0xcdd, 0xcde, .letter), (0xce0, 0xce1, .letter), (0xce2, 0xce3, .mark), (0xce6, 0xcef, .digit),
   (0xcf1, 0xcf2, .letter), (0xd00, 0xd03, .mark), (0xd04, 0xd0c, .letter), (0xd0e, 0xd10, .letter),
   (0xd12, 0xd3a, .letter), (0xd3b, 0xd3c, .mark), (0xd3d, 0xd3d, .letter), (0xd3e, 0xd44, .mark),
   (0xd46, 0xd48, .mark), (0xd4a, 0xd4d, .mark), (0xd4e, 0xd4e, .letter), (0xd54, 0xd56, .letter),
   (0xd57, 0xd57, .mark), (0xd58, 0xd5e, .otherNumber), (0xd5f, 0xd61, .letter),
   (0xd62, 0xd63, .mark), (0xd66, 0xd6f, .digit), (0xd70, 0xd78, .otherNumber),
   (0xd7a, 0xd7f, .letter), (0xd81, 0xd83, .mark), (0xd85, 0xd96, .letter), (0xd9a, 0xdb1, .letter),
   (0xdb3, 0xdbb, .letter), (0xdbd, 0xdbd, .letter), (0xdc0, 0xdc6, .letter), (0xdca, 0xdca, .mark),
   (0xdcf, 0xdd4, .mark), (0xdd6, 0xdd6, .mark), (0xdd8, 0xddf, .mark), (0xde6, 0xdef, .digit),
   (0xdf2, 0xdf3, .mark), (0xe01, 0xe30, .letter), (0xe31, 0xe31, .mark), (0xe32, 0xe33, .letter),
   (0xe34, 0xe3a, .mark), (0xe40, 0xe46, .letter), (0xe47, 0xe4e, .mark), (0xe50, 0xe59, .digit),
   (0xe81, 0xe82, .letter), (0xe84, 0xe84, .letter), (0xe86, 0xe8a, .letter),
   (0xe8c, 0xea3, .letter), (0xea5, 0xea5, .letter), (0xea7, 0xeb0, .letter), (0xeb1, 0xeb1, .mark),
   (0xeb2, 0xeb3, .letter), (0xeb4, 0xebc, .mark), (0xebd, 0xebd, .letter), (0xec0, 0xec4, .letter),
   (0xec6, 0xec6, .letter), (0xec8, 0xecd, .mark), (0xed0, 0xed9, .digit), (0xedc, 0xedf, .letter),
   (0xf00, 0xf00, .letter), (0xf18, 0xf19, .mark), (0xf20, 0xf29, .digit),
   (0xf2a, 0xf33, .otherNumber), (0xf35, 0xf35, .mark), (0xf37, 0xf37, .mark),
   (0xf39, 0xf39, .mark), (0xf3e, 0xf3f, .mark), (0xf40, 0xf47, .letter), (0xf49, 0xf6c, .letter),
   (0xf71, 0xf84, .mark), (0xf86, 0xf87, .mark), (0xf88, 0xf8c, .letter), (0xf8d, 0xf97, .mark),
   (0xf99, 0xfbc, .mark), (0xfc6, 0xfc6, .mark), (0x1000, 0x102a, .letter), (0x102b, 0x103e, .mark),
   (0x103f, 0x103f, .letter), (0x1040, 0x1049, .digit), (0x1050, 0x1055, .letter),
   (0x1056, 0x1059, .mark), (0x105a, 0x105d, .letter), (0x105e, 0x1060, .mark),
   (0x1061, 0x1061, .letter), (0x1062, 0x1064, .mark), (0x1065, 0x1066, .letter),
   (0x1067, 0x106d, .mark), (0x106e, 0x1070, .letter), (0x1071, 0x1074, .mark),
   (0x1075, 0x1081, .letter), (0x1082, 0x108d, .mark), (0x108e, 0x108e, .letter),
   (0x108f, 0x108f, .mark), (0x1090, 0x1099, .digit), (0x109a, 0x109d, .mark),
   (0x10a0, 0x10c5, .letter), (0x10c7, 0x10c7, .letter), (0x10cd, 0x10cd, .letter),
   (0x10d0, 0x10fa, .letter), (0x10fc, 0x1248, .letter), (0x124a, 0x124d, .letter),
   (0x1250, 0x1256, .letter), (0x1258, 0x1258, .letter), (0x125a, 0x125d, .letter),
   (0x1260, 0x1288, .letter), (0x128a, 0x128d, .letter), (0x1290, 0x12b0, .letter),
   (0x12b2, 0x12b5, .letter), (0x12b8, 0x12be, .letter), (0x12c0, 0x12c0, .letter),
   (0x12c2, 0x12c5, .letter), (0x12c8, 0x12d6, .letter), (0x12d8, 0x1310, .letter),
   (0x1312, 0x1315, .letter), (0x1318, 0x135a, .letter), (0x135d, 0x135f, .mark),
   (0x1369, 0x137c, .otherNumber), (0x1380, 0x138f, .letter), (0x13a0, 0x13f5, .letter),
   (0x13f8, 0x13fd, .letter), (0x1401, 0x166c, .letter), (0x166f, 0x167f, .letter),
   (0x1681, 0x169a, .letter), (0x16a0, 0x16ea, .letter), (0x16ee, 0x16f0, .letterNumber),
   (0x16f1, 0x16f8, .letter), (0x1700, 0x1711, .letter), (0x1712, 0x1715, .mark),
   (0x171f, 0x1731, .letter), (0x1732, 0x1734, .mark), (0x1740, 0x1751, .letter),
   (0x1752, 0x1753, .mark), (0x1760, 0x176c, .letter), (0x176e, 0x1770, .letter),
   (0x1772, 0x1773, .mark), (0x1780, 0x17b3, .letter), (0x17b4, 0x17d3, .mark),
   (0x17d7, 0x17d7, .letter), (0x17dc, 0x17dc, .letter), (0x17dd, 0x17dd, .mark),
   (0x17e0, 0x17e9, .digit), (0x17f0, 0x17f9, .otherNumber), (0x180b, 0x180d, .mark),
   (0x180f, 0x180f, .mark), (0x1810, 0x1819, .digit), (0x1820, 0x1878, .letter),
   (0x1880, 0x1884, .letter), (0x1885, 0x1886, .mark), (0x1887, 0x18a8, .letter),
   (0x18a9, 0x18a9, .mark), (0x18aa, 0x18aa, .letter), (0x18b0, 0x18f5, .letter),
   (0x1900, 0x191e, .letter), (0x1920, 0x192b, .mark), (0x1930, 0x193b, .mark),
   (0x1946, 0x194f, .digit), (0x1950, 0x196d, .letter), (0x1970, 0x1974, .letter),
   (0x1980, 0x19ab, .letter), (0x19b0, 0x19c9, .letter), (0x19d0, 0x19d9, .digit),
   (0x19da, 0x19da, .otherNumber), (0x1a00, 0x1a16, .letter), (0x1a17, 0x1a1b, .mark),
   (0x1a20, 0x1a54, .letter), (0x1a55, 0x1a5e, .mark), (0x1a60, 0x1a7c, .mark),
   (0x1a7f, 0x1a7f, .mark), (0x1a80, 0x1a89, .digit), (0x1a90, 0x1a99, .digit),
   (0x1aa7, 0x1aa7, .letter), (0x1ab0, 0x1abd, .mark), (0x1abf, 0x1ace, .mark),
   (0x1b00, 0x1b04, .mark), (0x1b05, 0x1b33, .letter), (0x1b34, 0x1b44, .mark),
   (0x1b45, 0x1b4c, .letter), (0x1b50, 0x1b59, .digit), (0x1b6b, 0x1b73, .mark),
   (0x1b80, 0x1b82, .mark), (0x1b83, 0x1ba0, .letter), (0x1ba1, 0x1bad, .mark),
   (0x1bae, 0x1baf, .letter), (0x1bb0, 0x1bb9, .digit), (0x1bba, 0x1be5, .letter),
   (0x1be6, 0x1bf3, .mark), (0x1c00, 0x1c23, .letter), (0x1c24, 0x1c37, .mark),
   (0x1c40, 0x1c49, .digit), (0x1c4d, 0x1c4f, .letter), (0x1c50, 0x1c59, .digit),
   (0x1c5a, 0x1c7d, .letter), (0x1c80, 0x1c88, .letter), (0x1c90, 0x1cba, .letter),
   (0x1cbd, 0x1cbf, .letter), (0x1cd0, 0x1cd2, .mark), (0x1cd4, 0x1ce8, .mark),
   (0x1ce9, 0x1cec, .letter), (0x1ced, 0x1ced, .mark), (0x1cee, 0x1cf3, .letter),
   (0x1cf4, 0x1cf4, .mark), (0x1cf5, 0x1cf6, .letter), (0x1cf7, 0x1cf9, .mark),
   (0x1cfa, 0x1cfa, .letter), (0x1d00, 0x1dbf, .letter), (0x1dc0, 0x1dff, .mark),
   (0x1e00, 0x1f15, .letter), (0x1f18, 0x1f1d, .letter), (0x1f20, 0x1f45, .letter),
   (0x1f48, 0x1f4d, .letter), (0x1f50, 0x1f57, .letter), (0x1f59, 0x1f59, .letter),
   (0x1f5b, 0x1f5b, .letter), (0x1f5d, 0x1f5d, .letter), (0x1f5f, 0x1f7d, .letter),
   (0x1f80, 0x1fb4, .letter), (0x1fb6, 0x1fbc, .letter), (0x1fbe, 0x1fbe, .letter),
   (0x1fc2, 0x1fc4, .letter), (0x1fc6, 0x1fcc, .letter), (0x1fd0, 0x1fd3, .letter),
   (0x1fd6, 0x1fdb, .letter), (0x1fe0, 0x1fec, .letter), (0x1ff2, 0x1ff4, .letter),
   (0x1ff6, 0x1ffc, .letter), (0x203f, 0x2040, .connector), (0x2054, 0x2054, .connector),
   (0x2070, 0x2070, .otherNumber), (0x2071, 0x2071, .letter), (0x2074, 0x2079, .otherNumber),
   (0x207f, 0x207f, .letter), (0x2080, 0x2089, .otherNumber), (0x2090, 0x209c, .letter),
   (0x20d0, 0x20dc, .mark), (0x20e1, 0x20e1, .mark), (0x20e5, 0x20f0, .mark),
   (0x2102, 0x2102, .letter), (0x2107, 0x2107, .letter), (0x210a, 0x2113, .letter),
   (0x2115, 0x2115, .letter), (0x2119, 0x211d, .letter), (0x2124, 0x2124, .letter),
   (0x2126, 0x2126, .letter), (0x2128, 0x2128, .letter), (0x212a, 0x212d, .letter),
   (0x212f, 0x2139, .letter), (0x213c, 0x213f, .letter), (0x2145, 0x2149, .letter),
   (0x214e, 0x214e, .letter), (0x2150, 0x215f, .otherNumber), (0x2160, 0x2182, .letterNumber),
   (0x2183, 0x2184, .letter), (0x2185, 0x2188, .letterNumber), (0x2189, 0x2189, .otherNumber),
   (0x2460, 0x249b, .otherNumber), (0x24ea, 0x24ff, .otherNumber), (0x2776, 0x2793, .otherNumber),
   (0x2c00, 0x2ce4, .letter), (0x2ceb, 0x2cee, .letter), (0x2cef, 0x2cf1, .mark),
   (0x2cf2, 0x2cf3, .letter), (0x2cfd, 0x2cfd, .otherNumber), (0x2d00, 0x2d25, .letter),
   (0x2d27, 0x2d27, .letter), (0x2d2d, 0x2d2d, .letter), (0x2d30, 0x2d67, .letter),
   (0x2d6f, 0x2d6f, .letter), (0x2d7f, 0x2d7f, .mark), (0x2d80, 0x2d96, .letter),
   (0x2da0, 0x2da6, .letter), (0x2da8, 0x2dae, .letter), (0x2db0, 0x2db6, .letter),
   (0x2db8, 0x2dbe, .letter), (0x2dc0, 0x2dc6, .letter), (0x2dc8, 0x2dce, .letter),
   (0x2dd0, 0x2dd6, .letter), (0x2dd8, 0x2dde, .letter), (0x2de0, 0x2dff, .mark),
   (0x2e2f, 0x2e2f, .letter), (0x3005, 0x3006, .letter), (0x3007, 0x3007, .letterNumber),
   (0x3021, 0x3029, .letterNumber), (0x302a, 0x302f, .mark), (0x3031, 0x3035, .letter),
   (0x3038, 0x303a, .letterNumber), (0x303b, 0x303c, .letter), (0x3041, 0x3096, .letter),
   (0x3099, 0x309a, .mark), (0x309d, 0x309f, .letter), (0x30a1, 0x30fa, .letter),
   (0x30fc, 0x30ff, .letter), (0x3105, 0x312f, .letter), (0x3131, 0x318e, .letter),
   (0x3192, 0x3195, .otherNumber), (0x31a0, 0x31bf, .letter), (0x31f0, 0x31ff, .letter),
   (0x3220, 0x3229, .otherNumber), (0x3248, 0x324f, .otherNumber), (0x3251, 0x325f, .otherNumber),
   (0x3280, 0x3289, .otherNumber), (0x32b1, 0x32bf, .otherNumber), (0x3400, 0x4dbf, .letter),
   (0x4e00, 0xa48c, .letter), (0xa4d0, 0xa4fd, .letter), (0xa500, 0xa60c, .letter),
   (0xa610, 0xa61f, .letter), (0xa620, 0xa629, .digit), (0xa62a, 0xa62b, .letter),
   (0xa640, 0xa66e, .letter), (0xa66f, 0xa66f, .mark), (0xa674, 0xa67d, .mark),
   (0xa67f, 0xa69d, .letter), (0xa69e, 0xa69f, .mark), (0xa6a0, 0xa6e5, .letter),
   (0xa6e6, 0xa6ef, .letterNumber), (0xa6f0, 0xa6f1, .mark), (0xa717, 0xa71f, .letter),
   (0xa722, 0xa788, .letter), (0xa78b, 0xa7ca, .letter), (0xa7d0, 0xa7d1, .letter),
   (0xa7d3, 0xa7d3, .letter), (0xa7d5, 0xa7d9, .letter), (0xa7f2, 0xa801, .letter),
   (0xa802, 0xa802, .mark), (0xa803, 0xa805, .letter), (0xa806, 0xa806, .mark),
   (0xa807, 0xa80a, .letter), (0xa80b, 0xa80b, .mark), (0xa80c, 0xa822, .letter),
   (0xa823, 0xa827, .mark), (0xa82c, 0xa82c, .mark), (0xa830, 0xa835, .otherNumber),
   (0xa840, 0xa873, .letter), (0xa880, 0xa881, .mark), (0xa882, 0xa8b3, .letter),
   (0xa8b4, 0xa8c5, .mark), (0xa8d0, 0xa8d9, .digit), (0xa8e0, 0xa8f1, .mark),
   (0xa8f2, 0xa8f7, .letter), (0xa8fb, 0xa8fb, .letter), (0xa8fd, 0xa8fe, .letter),
   (0xa8ff, 0xa8ff, .mark), (0xa900, 0xa909, .digit), (0xa90a, 0xa925, .letter),
   (0xa926, 0xa92d, .mark), (0xa930, 0xa946, .letter), (0xa947, 0xa953, .mark),
   (0xa960, 0xa97c, .letter), (0xa980, 0xa983, .mark), (0xa984, 0xa9b2, .letter),
   (0xa9b3, 0xa9c0, .mark), (0xa9cf, 0xa9cf, .letter), (0xa9d0, 0xa9d9, .digit),
   (0xa9e0, 0xa9e4, .letter), (0xa9e5, 0xa9e5, .mark), (0xa9e6, 0xa9ef, .letter),
   (0xa9f0, 0xa9f9, .digit), (0xa9fa, 0xa9fe, .letter), (0xaa00, 0xaa28, .letter),
   (0xaa29, 0xaa36, .mark), (0xaa40, 0xaa42, .letter), (0xaa43, 0xaa43, .mark),
   (0xaa44, 0xaa4b, .letter), (0xaa4c, 0xaa4d, .mark), (0xaa50, 0xaa59, .digit),
   (0xaa60, 0xaa76, .letter), (0xaa7a, 0xaa7a, .letter), (0xaa7b, 0xaa7d, .mark),
   (0xaa7e, 0xaaaf, .letter), (0xaab0, 0xaab0, .mark), (0xaab1, 0xaab1, .letter),
   (0xaab2, 0xaab4, .mark), (0xaab5, 0xaab6, .letter), (0xaab7, 0xaab8, .mark),
   (0xaab9, 0xaabd, .letter), (0xaabe, 0xaabf, .mark), (0xaac0, 0xaac0, .letter),
   (0xaac1, 0xaac1, .mark), (0xaac2, 0xaac2, .letter), (0xaadb, 0xaadd, .letter),
   (0xaae0, 0xaaea, .letter), (0xaaeb, 0xaaef, .mark), (0xaaf2, 0xaaf4, .letter),
   (0xaaf5, 0xaaf6, .mark), (0xab01, 0xab06, .letter), (0xab09, 0xab0e, .letter),
   (0xab11, 0xab16, .letter), (0xab20, 0xab26, .letter), (0xab28, 0xab2e, .letter),
   (0xab30, 0xab5a, .letter), (0xab5c, 0xab69, .letter), (0xab70, 0xabe2, .letter),
   (0xabe3, 0xabea, .mark), (0xabec, 0xabed, .mark), (0xabf0, 0xabf9, .digit),
   (0xac00, 0xd7a3, .letter), (0xd7b0, 0xd7c6, .letter), (0xd7cb, 0xd7fb, .letter),
   (0xf900, 0xfa6d, .letter), (0xfa70, 0xfad9, .letter), (0xfb00, 0xfb06, .letter),
   (0xfb13, 0xfb17, .letter), (0xfb1d, 0xfb1d, .letter), (0xfb1e, 0xfb1e, .mark),
   (0xfb1f, 0xfb28, .letter), (0xfb2a, 0xfb36, .letter), (0xfb38, 0xfb3c, .letter),
   (0xfb3e, 0xfb3e, .letter), (0xfb40, 0xfb41, .letter), (0xfb43, 0xfb44, .letter),
   (0xfb46, 0xfbb1, .letter), (0xfbd3, 0xfd3d, .letter), (0xfd50, 0xfd8f, .letter),
   (0xfd92, 0xfdc7, .letter), (0xfdf0, 0xfdfb, .letter), (0xfe00, 0xfe0f, .mark),
   (0xfe20, 0xfe2f, .mark), (0xfe33, 0xfe34, .connector), (0xfe4d, 0xfe4f, .connector),
   (0xfe70, 0xfe74, .letter), (0xfe76, 0xfefc, .letter), (0xff10, 0xff19, .digit),
   (0xff21, 0xff3a, .letter), (0xff3f, 0xff3f, .connector), (0xff41, 0xff5a, .letter),
   (0xff66, 0xffbe, .letter), (0xffc2, 0xffc7, .letter), (0xffca, 0xffcf, .letter),
   (0xffd2, 0xffd7, .letter), (0xffda, 0xffdc, .letter)]

def higherClasses : List (Nat × Nat × CharClass) :=
  [(0x10000, 0x1000b, .letter), (0x1000d, 0x10026, .letter), (0x10028, 0x1003a, .letter),
   (0x1003c, 0x1003d, .letter), (0x1003f, 0x1004d, .letter), (0x10050, 0x1005d, .letter),
   (0x10080, 0x100fa, .letter), (0x10107, 0x10133, .otherNumber), (0x10140, 0x10174, .letterNumber),
   (0x10175, 0x10178, .otherNumber), (0x1018a, 0x1018b, .otherNumber), (0x101fd, 0x101fd, .mark),
   (0x10280, 0x1029c, .letter), (0x102a0, 0x102d0, .letter), (0x102e0, 0x102e0, .mark),
   (0x102e1, 0x102fb, .otherNumber), (0x10300, 0x1031f, .letter), (0x10320, 0x10323, .otherNumber),
   (0x1032d, 0x10340, .letter), (0x10341, 0x10341, .letterNumber), (0x10342, 0x10349, .letter),
   (0x1034a, 0x1034a, .letterNumber), (0x10350, 0x10375, .letter), (0x10376, 0x1037a, .mark),
   (0x10380, 0x1039d, .letter), (0x103a0, 0x103c3, .letter), (0x103c8, 0x103cf, .letter),
   (0x103d1, 0x103d5, .letterNumber), (0x10400, 0x1049d, .letter), (0x104a0, 0x104a9, .digit),
   (0x104b0, 0x104d3, .letter), (0x104d8, 0x104fb, .letter), (0x10500, 0x10527, .letter),
   (0x10530, 0x10563, .letter), (0x10570, 0x1057a, .letter), (0x1057c, 0x1058a, .letter),
   (0x1058c, 0x10592, .letter), (0x10594, 0x10595, .letter), (0x10597, 0x105a1, .letter),
   (0x105a3, 0x105b1, .letter), (0x105b3, 0x105b9, .letter), (0x105bb, 0x105bc, .letter),
   (0x10600, 0x10736, .letter), (0x10740, 0x10755, .letter), (0x10760, 0x10767, .letter),
   (0x10780, 0x10785, .letter), (0x10787, 0x107b0, .letter), (0x107b2, 0x107ba, .letter),
   (0x10800, 0x10805, .letter), (0x10808, 0x10808, .letter), (0x1080a, 0x10835, .letter),
   (0x10837, 0x10838, .letter), (0x1083c, 0x1083c, .letter), (0x1083f, 0x10855, .letter),
   (0x10858, 0x1085f, .otherNumber), (0x10860, 0x10876, .letter), (0x10879, 0x1087f, .otherNumber),
   (0x10880, 0x1089e, .letter), (0x108a7, 0x108af, .otherNumber), (0x108e0, 0x108f2, .letter),
   (0x108f4, 0x108f5, .letter), (0x108fb, 0x108ff, .otherNumber), (0x10900, 0x10915, .letter),
   (0x10916, 0x1091b, .otherNumber), (0x10920, 0x10939, .letter), (0x10980, 0x109b7, .letter),
   (0x109bc, 0x109bd, .otherNumber), (0x109be, 0x109bf, .letter), (0x109c0, 0x109cf, .otherNumber),
   (0x109d2, 0x109ff, .otherNumber), (0x10a00, 0x10a00, .letter), (0x10a01, 0x10a03, .mark),
   (0x10a05, 0x10a06, .mark), (0x10a0c, 0x10a0f, .mark), (0x10a10, 0x10a13, .letter),
   (0x10a15, 0x10a17, .letter), (0x10a19, 0x10a35, .letter), (0x10a38, 0x10a3a, .mark),
   (0x10a3f, 0x10a3f, .mark), (0x10a40, 0x10a48, .otherNumber), (0x10a60, 0x10a7c, .letter),
   (0x10a7d, 0x10a7e, .otherNumber), (0x10a80, 0x10a9c, .letter), (0x10a9d, 0x10a9f, .otherNumber),
   (0x10ac0, 0x10ac7, .letter), (0x10ac9, 0x10ae4, .letter), (0x10ae5, 0x10ae6, .mark),
   (0x10aeb, 0x10aef, .otherNumber), (0x10b00, 0x10b35, .letter), (0x10b40, 0x10b55, .letter),
   (0x10b58, 0x10b5f, .otherNumber), (0x10b60, 0x10b72, .letter), (0x10b78, 0x10b7f, .otherNumber),
   (0x10b80, 0x10b91, .letter), (0x10ba9, 0x10baf, .otherNumber), (0x10c00, 0x10c48, .letter),
   (0x10c80, 0x10cb2, .letter), (0x10cc0, 0x10cf2, .letter), (0x10cfa, 0x10cff, .otherNumber),
   (0x10d00, 0x10d23, .letter), (0x10d24, 0x10d27, .mark), (0x10d30, 0x10d39, .digit),
   (0x10e60, 0x10e7e, .otherNumber), (0x10e80, 0x10ea9, .letter), (0x10eab, 0x10eac, .mark),
   (0x10eb0, 0x10eb1, .letter), (0x10f00, 0x10f1c, .letter), (0x10f1d, 0x10f26, .otherNumber),
   (0x10f27, 0x10f27, .letter), (0x10f30, 0x10f45, .letter), (0x10f46, 0x10f50, .mark),
   (0x10f51, 0x10f54, .otherNumber), (0x10f70, 0x10f81, .letter), (0x10f82, 0x10f85, .mark),
   (0x10fb0, 0x10fc4, .letter), (0x10fc5, 0x10fcb, .otherNumber), (0x10fe0, 0x10ff6, .letter),
   (0x11000, 0x11002, .mark), (0x11003, 0x11037, .letter), (0x11038, 0x11046, .mark),
   (0x11052, 0x11065, .otherNumber), (0x11066, 0x1106f, .digit), (0x11070, 0x11070, .mark),
   (0x11071, 0x11072, .letter), (0x11073, 0x11074, .mark), (0x11075, 0x11075, .letter),
   (0x1107f, 0x11082, .mark), (0x11083, 0x110af, .letter), (0x110b0, 0x110ba, .mark),
   (0x110c2, 0x110c2, .mark), (0x110d0, 0x110e8, .letter), (0x110f0, 0x110f9, .digit),
   (0x11100, 0x11102, .mark), (0x11103, 0x11126, .letter), (0x11127, 0x11134, .mark),
   (0x11136, 0x1113f, .digit), (0x11144, 0x11144, .letter), (0x11145, 0x11146, .mark),
   (0x11147, 0x11147, .letter), (0x11150, 0x11172, .letter), (0x11173, 0x11173, .mark),
   (0x11176, 0x11176, .letter), (0x11180, 0x11182, .mark), (0x11183, 0x111b2, .letter),
   (0x111b3, 0x111c0, .mark), (0x111c1, 0x111c4, .letter), (0x111c9, 0x111cc, .mark),
   (0x111ce, 0x111cf, .mark), (0x111d0, 0x111d9, .digit), (0x111da, 0x111da, .letter),
   (0x111dc, 0x111dc, .letter), (0x111e1, 0x111f4, .otherNumber), (0x11200, 0x11211, .letter),
   (0x11213, 0x1122b, .letter), (0x1122c, 0x11237, .mark), (0x1123e, 0x1123e, .mark),
   (0x11280, 0x11286, .letter), (0x11288, 0x11288, .letter), (0x1128a, 0x1128d, .letter),
   (0x1128f, 0x1129d, .letter), (0x1129f, 0x112a8, .letter), (0x112b0, 0x112de, .letter),
   (0x112df, 0x112ea, .mark), (0x112f0, 0x112f9, .digit), (0x11300, 0x11303, .mark),
   (0x11305, 0x1130c, .letter), (0x1130f, 0x11310, .letter), (0x11313, 0x11328, .letter),
   (0x1132a, 0x11330, .letter), (0x11332, 0x11333, .letter), (0x11335, 0x11339, .letter),
   (0x1133b, 0x1133c, .mark), (0x1133d, 0x1133d, .letter), (0x1133e, 0x11344, .mark),
   (0x11347, 0x11348, .mark), (0x1134b, 0x1134d, .mark), (0x11350, 0x11350, .letter),
   (0x11357, 0x11357, .mark), (0x1135d, 0x11361, .letter), (0x11362, 0x11363, .mark),
   (0x11366, 0x1136c, .mark), (0x11370, 0x11374, .mark), (0x11400, 0x11434, .letter),
   (0x11435, 0x11446, .mark), (0x11447, 0x1144a, .letter), (0x11450, 0x11459, .digit),
   (0x1145e, 0x1145e, .mark), (0x1145f, 0x11461, .letter), (0x11480, 0x114af, .letter),
   (0x114b0, 0x114c3, .mark), (0x114c4, 0x114c5, .letter), (0x114c7, 0x114c7, .letter),
   (0x114d0, 0x114d9, .digit), (0x11580, 0x115ae, .letter), (0x115af, 0x115b5, .mark),
   (0x115b8, 0x115c0, .mark), (0x115d8, 0x115db, .letter), (0x115dc, 0x115dd, .mark),
   (0x11600, 0x1162f, .letter), (0x11630, 0x11640, .mark), (0x11644, 0x11644, .letter),
   (0x11650, 0x11659, .digit), (0x11680, 0x116aa, .letter), (0x116ab, 0x116b7, .mark),
   (0x116b8, 0x116b8, .letter), (0x116c0, 0x116c9, .digit), (0x11700, 0x1171a, .letter),
   (0x1171d, 0x1172b, .mark), (0x11730, 0x11739, .digit), (0x1173a, 0x1173b, .otherNumber),
   (0x11740, 0x11746, .letter), (0x11800, 0x1182b, .letter), (0x1182c, 0x1183a, .mark),
   (0x118a0, 0x118df, .letter), (0x118e0, 0x118e9, .digit), (0x118ea, 0x118f2, .otherNumber),
   (0x118ff, 0x11906, .letter), (0x11909, 0x11909, .letter), (0x1190c, 0x11913, .letter),
   (0x11915, 0x11916, .letter), (0x11918, 0x1192f, .letter), (0x11930, 0x11935, .mark),
   (0x11937, 0x11938, .mark), (0x1193b, 0x1193e, .mark), (0x1193f, 0x1193f, .letter),
   (0x11940, 0x11940, .mark), (0x11941, 0x11941, .letter), (0x11942, 0x11943, .mark),
   (0x11950, 0x11959, .digit), (0x119a0, 0x119a7, .letter), (0x119aa, 0x119d0, .letter),
   (0x119d1, 0x119d7, .mark), (0x119da, 0x119e0, .mark), (0x119e1, 0x119e1, .letter),
   (0x119e3, 0x119e3, .letter), (0x119e4, 0x119e4, .mark), (0x11a00, 0x11a00, .letter),
   (0x11a01, 0x11a0a, .mark), (0x11a0b, 0x11a32, .letter), (0x11a33, 0x11a39, .mark),
   (0x11a3a, 0x11a3a, .letter), (0x11a3b, 0x11a3e, .mark), (0x11a47, 0x11a47, .mark),
   (0x11a50, 0x11a50, .letter), (0x11a51, 0x11a5b, .mark), (0x11a5c, 0x11a89, .letter),
   (0x11a8a, 0x11a99, .mark), (0x11a9d, 0x11a9d, .letter), (0x11ab0, 0x11af8, .letter),
   (0x11c00, 0x11c08, .letter), (0x11c0a, 0x11c2e, .letter), (0x11c2f, 0x11c36, .mark),
   (0x11c38, 0x11c3f, .mark), (0x11c40, 0x11c40, .letter), (0x11c50, 0x11c59, .digit),
   (0x11c5a, 0x11c6c, .otherNumber), (0x11c72, 0x11c8f, .letter), (0x11c92, 0x11ca7, .mark),
   (0x11ca9, 0x11cb6, .mark), (0x11d00, 0x11d06, .letter), (0x11d08, 0x11d09, .letter),
   (0x11d0b, 0x11d30, .letter), (0x11d31, 0x11d36, .mark), (0x11d3a, 0x11d3a, .mark),
   (0x11d3c, 0x11d3d, .mark), (0x11d3f, 0x11d45, .mark), (0x11d46, 0x11d46, .letter),
   (0x11d47, 0x11d47, .mark), (0x11d50, 0x11d59, .digit), (0x11d60, 0x11d65, .letter),
   (0x11d67, 0x11d68, .letter), (0x11d6a, 0x11d89, .letter), (0x11d8a, 0x11d8e, .mark),
   (0x11d90, 0x11d91, .mark), (0x11d93, 0x11d97, .mark), (0x11d98, 0x11d98, .letter),
   (0x11da0, 0x11da9, .digit), (0x11ee0, 0x11ef2, .letter), (0x11ef3, 0x11ef6, .mark),
   (0x11fb0, 0x11fb0, .letter), (0x11fc0, 0x11fd4, .otherNumber), (0x12000, 0x12399, .letter),
   (0x12400, 0x1246e, .letterNumber), (0x12480, 0x12543, .letter), (0x12f90, 0x12ff0, .letter),
   (0x13000, 0x1342e, .letter), (0x14400, 0x14646, .letter), (0x16800, 0x16a38, .letter),
   (0x16a40, 0x16a5e, .letter), (0x16a60, 0x16a69, .digit), (0x16a70, 0x16abe, .letter),
   (0x16ac0, 0x16ac9, .digit), (0x16ad0, 0x16aed, .letter), (0x16af0, 0x16af4, .mark),
   (0x16b00, 0x16b2f, .letter), (0x16b30, 0x16b36, .mark), (0x16b40, 0x16b43, .letter),
   (0x16b50, 0x16b59, .digit), (0x16b5b, 0x16b61, .otherNumber), (0x16b63, 0x16b77, .letter),
   (0x16b7d, 0x16b8f, .letter), (0x16e40, 0x16e7f, .letter), (0x16e80, 0x16e96, .otherNumber),
   (0x16f00, 0x16f4a, .letter), (0x16f4f, 0x16f4f, .mark), (0x16f50, 0x16f50, .letter),
   (0x16f51, 0x16f87, .mark), (0x16f8f, 0x16f92, .mark), (0x16f93, 0x16f9f, .letter),
   (0x16fe0, 0x16fe1, .letter), (0x16fe3, 0x16fe3, .letter), (0x16fe4, 0x16fe4, .mark),
   (0x16ff0, 0x16ff1, .mark), (0x17000, 0x187f7, .letter), (0x18800, 0x18cd5, .letter),
   (0x18d00, 0x18d08, .letter), (0x1aff0, 0x1aff3, .letter), (0x1aff5, 0x1affb, .letter),
   (0x1affd, 0x1affe, .letter), (0x1b000, 0x1b122, .letter), (0x1b150, 0x1b152, .letter),
   (0x1b164, 0x1b167, .letter), (0x1b170, 0x1b2fb, .letter), (0x1bc00, 0x1bc6a, .letter),
   (0x1bc70, 0x1bc7c, .letter), (0x1bc80, 0x1bc88, .letter), (0x1bc90, 0x1bc99, .letter),
   (0x1bc9d, 0x1bc9e, .mark), (0x1cf00, 0x1cf2d, .mark), (0x1cf30, 0x1cf46, .mark),
   (0x1d165, 0x1d169, .mark), (0x1d16d, 0x1d172, .mark), (0x1d17b, 0x1d182, .mark),
   (0x1d185, 0x1d18b, .mark), (0x1d1aa, 0x1d1ad, .mark), (0x1d242, 0x1d244, .mark),
   (0x1d2e0, 0x1d2f3, .otherNumber), (0x1d360, 0x1d378, .otherNumber), (0x1d400, 0x1d454, .letter),
   (0x1d456, 0x1d49c, .letter), (0x1d49e, 0x1d49f, .letter), (0x1d4a2, 0x1d4a2, .letter),
   (0x1d4a5, 0x1d4a6, .letter), (0x1d4a9, 0x1d4ac, .letter), (0x1d4ae, 0x1d4b9, .letter),
   (0x1d4bb, 0x1d4bb, .letter), (0x1d4bd, 0x1d4c3, .letter), (0x1d4c5, 0x1d505, .letter),
   (0x1d507, 0x1d50a, .letter), (0x1d50d, 0x1d514, .letter), (0x1d516, 0x1d51c, .letter),
   (0x1d51e, 0x1d539, .letter), (0x1d53b, 0x1d53e, .letter), (0x1d540, 0x1d544, .letter),
   (0x1d546, 0x1d546, .letter), (0x1d54a, 0x1d550, .letter), (0x1d552, 0x1d6a5, .letter),
   (0x1d6a8, 0x1d6c0, .letter), (0x1d6c2, 0x1d6da, .letter), (0x1d6dc, 0x1d6fa, .letter),
   (0x1d6fc, 0x1d714, .letter), (0x1d716, 0x1d734, .letter), (0x1d736, 0x1d74e, .letter),
   (0x1d750, 0x1d76e, .letter), (0x1d770, 0x1d788, .letter), (0x1d78a, 0x1d7a8, .letter),
   (0x1d7aa, 0x1d7c2, .letter), (0x1d7c4, 0x1d7cb, .letter), (0x1d7ce, 0x1d7ff, .digit),
   (0x1da00, 0x1da36, .mark), (0x1da3b, 0x1da6c, .mark), (0x1da75, 0x1da75, .mark),
   (0x1da84, 0x1da84, .mark), (0x1da9b, 0x1da9f, .mark), (0x1daa1, 0x1daaf, .mark),
   (0x1df00, 0x1df1e, .letter), (0x1e000, 0x1e006, .mark), (0x1e008, 0x1e018, .mark),
   (0x1e01b, 0x1e021, .mark), (0x1e023, 0x1e024, .mark), (0x1e026, 0x1e02a, .mark),
   (0x1e100, 0x1e12c, .letter), (0x1e130, 0x1e136, .mark), (0x1e137, 0x1e13d, .letter),
   (0x1e140, 0x1e149, .digit), (0x1e14e, 0x1e14e, .letter), (0x1e290, 0x1e2ad, .letter),
   (0x1e2ae, 0x1e2ae, .mark), (0x1e2c0, 0x1e2eb, .letter), (0x1e2ec, 0x1e2ef, .mark),
   (0x1e2f0, 0x1e2f9, .digit), (0x1e7e0, 0x1e7e6, .letter), (0x1e7e8, 0x1e7eb, .letter),
   (0x1e7ed, 0x1e7ee, .letter), (0x1e7f0, 0x1e7fe, .letter), (0x1e800, 0x1e8c4, .letter),
   (0x1e8c7, 0x1e8cf, .otherNumber), (0x1e8d0, 0x1e8d6, .mark), (0x1e900, 0x1e943, .letter),
   (0x1e944, 0x1e94a, .mark), (0x1e94b, 0x1e94b, .letter), (0x1e950, 0x1e959, .digit),
   (0x1ec71, 0x1ecab, .otherNumber), (0x1ecad, 0x1ecaf, .otherNumber),
   (0x1ecb1, 0x1ecb4, .otherNumber), (0x1ed01, 0x1ed2d, .otherNumber),
   (0x1ed2f, 0x1ed3d, .otherNumber), (0x1ee00, 0x1ee03, .letter), (0x1ee05, 0x1ee1f, .letter),
   (0x1ee21, 0x1ee22, .letter), (0x1ee24, 0x1ee24, .letter), (0x1ee27, 0x1ee27, .letter),
   (0x1ee29, 0x1ee32, .letter), (0x1ee34, 0x1ee37, .letter), (0x1ee39, 0x1ee39, .letter),
   (0x1ee3b, 0x1ee3b, .letter), (0x1ee42, 0x1ee42, .letter), (0x1ee47, 0x1ee47, .letter),
   (0x1ee49, 0x1ee49, .letter), (0x1ee4b, 0x1ee4b, .letter), (0x1ee4d, 0x1ee4f, .letter),
   (0x1ee51, 0x1ee52, .letter), (0x1ee54, 0x1ee54, .letter), (0x1ee57, 0x1ee57, .letter),
   (0x1ee59, 0x1ee59, .letter), (0x1ee5b, 0x1ee5b, .letter), (0x1ee5d, 0x1ee5d, .letter),
   (0x1ee5f, 0x1ee5f, .letter), (0x1ee61, 0x1ee62, .letter), (0x1ee64, 0x1ee64, .letter),
   (0x1ee67, 0x1ee6a, .letter), (0x1ee6c, 0x1ee72, .letter), (0x1ee74, 0x1ee77, .letter),
   (0x1ee79, 0x1ee7c, .letter), (0x1ee7e, 0x1ee7e, .letter), (0x1ee80, 0x1ee89, .letter),
   (0x1ee8b, 0x1ee9b, .letter), (0x1eea1, 0x1eea3, .letter), (0x1eea5, 0x1eea9, .letter),
   (0x1eeab, 0x1eebb, .letter), (0x1f100, 0x1f10c, .otherNumber), (0x1fbf0, 0x1fbf9, .digit),
   (0x20000, 0x2a6df, .letter), (0x2a700, 0x2b738, .letter), (0x2b740, 0x2b81d, .letter),
   (0x2b820, 0x2cea1, .letter), (0x2ceb0, 0x2ebe0, .letter), (0x2f800, 0x2fa1d, .letter),
   (0x30000, 0x3134a, .letter), (0xe0100, 0xe01ef, .mark)]

/-- The class of a code point, in ranges that ascend and do not overlap. -/
def classIn : List (Nat × Nat × CharClass) → Nat → Option CharClass
  | [], _ => none
  | (lo, hi, k) :: rest, n => if n < lo then none else if n ≤ hi then some k else classIn rest n

def classes : List (Nat × Nat × CharClass) := basicClasses ++ higherClasses

def classOf (c : Char) : Option CharClass := classIn classes c.toNat

def CharClass.inWords : CharClass → Bool
  | .letter | .letterNumber | .digit | .otherNumber => true
  | .mark | .connector => false

def extend (lo hi : Nat) : List (Nat × Nat) → List (Nat × Nat)
  | (lo', hi') :: rest => if lo' = hi + 1 then (lo, hi') :: rest else (lo, hi) :: (lo', hi') :: rest
  | [] => [(lo, hi)]

def spans (p : CharClass → Bool) : List (Nat × Nat × CharClass) → List (Nat × Nat)
  | [] => []
  | (lo, hi, k) :: rest => if p k then extend lo hi (spans p rest) else spans p rest

section Ranges

variable {rs : List (Nat × Nat)} {cs : List (Nat × Nat × CharClass)} {p : CharClass → Bool}
  {r : Nat × Nat} {lo hi n : Nat} {k : CharClass}

theorem exists_range (h : inRanges rs n = true) : ∃ r ∈ rs, r.1 ≤ n ∧ n ≤ r.2 := by
  induction rs with
  | nil => cases h
  | cons r rs ih =>
    rw [inRanges] at h
    split at h
    · cases h
    · rename_i hlo
      rw [Bool.or_eq_true, decide_eq_true_eq] at h
      rcases h with hhi | hrest
      · exact ⟨r, .head _, Nat.not_lt.1 hlo, hhi⟩
      · obtain ⟨s, hs, hn⟩ := ih hrest
        exact ⟨s, .tail _ hs, hn⟩

theorem mem_extend (h : r ∈ extend lo hi rs) (hn : r.1 ≤ n ∧ n ≤ r.2) :
    (lo ≤ n ∧ n ≤ hi) ∨ ∃ s ∈ rs, s.1 ≤ n ∧ n ≤ s.2 := by
  unfold extend at h
  split at h
  · rename_i lo' hi' rest
    split at h
    · rename_i htouch
      rcases List.mem_cons.1 h with rfl | hrest
      · by_cases hhi : n ≤ hi
        · exact .inl ⟨hn.1, hhi⟩
        · exact .inr ⟨(lo', hi'), .head _, by simp only; omega, hn.2⟩
      · exact .inr ⟨r, .tail _ hrest, hn⟩
    · rcases List.mem_cons.1 h with rfl | hrest
      · exact .inl hn
      · exact .inr ⟨r, hrest, hn⟩
  · rcases List.mem_singleton.1 h with rfl
    exact .inl hn

theorem mem_spans (h : r ∈ spans p cs) (hn : r.1 ≤ n ∧ n ≤ r.2) :
    ∃ s ∈ cs, p s.2.2 = true ∧ s.1 ≤ n ∧ n ≤ s.2.1 := by
  induction cs generalizing r with
  | nil => cases h
  | cons s cs ih =>
    have htail {r : Nat × Nat} (hr : r ∈ spans p cs) (hn : r.1 ≤ n ∧ n ≤ r.2) :
        ∃ s' ∈ s :: cs, p s'.2.2 = true ∧ s'.1 ≤ n ∧ n ≤ s'.2.1 := by
      obtain ⟨s', hs', hclass⟩ := ih hr hn
      exact ⟨s', .tail _ hs', hclass⟩
    rw [spans] at h
    split at h
    · rename_i hp
      rcases mem_extend h hn with hin | ⟨r, hr, hin⟩
      · exact ⟨s, .head _, hp, hin⟩
      · exact htail hr hin
    · exact htail h hn

def Before (r s : Nat × Nat × CharClass) : Prop := r.1 ≤ r.2.1 ∧ r.2.1 < s.1 ∧ s.1 ≤ s.2.1

instance : DecidableRel Before := fun _ _ => inferInstanceAs (Decidable (_ ∧ _))

instance : IsTrans (Nat × Nat × CharClass) Before where
  trans _ _ _ hrs hst := ⟨hrs.1,
    Nat.lt_of_lt_of_le hrs.2.1 (Nat.le_trans hst.1 (Nat.le_of_lt hst.2.1)),
    hst.2.2⟩

theorem classIn_of_mem {r : Nat × Nat × CharClass} (hcs : cs.Pairwise Before) (h : r ∈ cs)
    (hn : r.1 ≤ n ∧ n ≤ r.2.1) : classIn cs n = some r.2.2 := by
  induction cs with
  | nil => cases h
  | cons s cs ih =>
    obtain ⟨hbefore, hcs⟩ := List.pairwise_cons.1 hcs
    rw [classIn]
    rcases List.mem_cons.1 h with rfl | hmem
    · rw [if_neg (Nat.not_lt.2 hn.1), if_pos hn.2]
    · obtain ⟨hle, hlt, -⟩ := hbefore r hmem
      have hhi : s.2.1 < n := Nat.lt_of_lt_of_le hlt hn.1
      rw [if_neg (Nat.not_lt.2 (Nat.le_of_lt (Nat.lt_of_le_of_lt hle hhi))),
        if_neg (Nat.not_le.2 hhi)]
      exact ih hcs hmem

end Ranges

theorem pairwise_classes : classes.Pairwise Before := by
  have hchain : classes.IsChain Before := by decide +kernel
  exact List.isChain_iff_pairwise.1 hchain

theorem spans_classes : spans CharClass.inWords classes = wordRanges.erase (0x5f, 0x5f) := by
  decide +kernel

theorem exists_classOf {c : Char} (h : isWord c = true) :
    c = '_' ∨ ∃ k, classOf c = some k ∧ k.inWords = true := by
  obtain ⟨r, hr, hn⟩ := exists_range h
  by_cases hline : r = (0x5f, 0x5f)
  · have hc : c.toNat = '_'.toNat := by
      rw [hline] at hn
      exact Nat.le_antisymm hn.2 hn.1
    exact .inl (Char.toNat_inj.1 hc)
  · have hspan : r ∈ spans CharClass.inWords classes := by
      rw [spans_classes]
      exact (List.mem_erase_of_ne hline).2 hr
    obtain ⟨s, hs, hclass, hn⟩ := mem_spans hspan hn
    exact .inr ⟨s.2.2, classIn_of_mem pairwise_classes hs hn, hclass⟩

theorem classOf_of_isAlpha {c : Char} (h : c.isAlpha = true) : classOf c = some .letter := by
  have hall : ∀ n : Fin 128, (Char.ofNat n).isAlpha = true →
      classOf (.ofNat n) = some .letter := by decide +kernel
  have hc : c.toNat < 128 := by
    simp only [Char.isAlpha, Char.isUpper, Char.isLower, UInt32.le_iff_toNat_le, Bool.or_eq_true,
      Bool.and_eq_true, decide_eq_true_eq, ge_iff_le, Char.reduceVal, UInt32.reduceToNat,
      Char.toNat_val] at h
    omega
  have hletter := hall ⟨c.toNat, hc⟩
  rw [Char.ofNat_toNat] at hletter
  exact hletter h

end CurlScribe.Text
