import Descent.CharSet.Script.Basic

/-!
Scripts of Unicode 16 with names from N to Z.
-/

namespace Descent.CharSet

def scriptsNToZ : List Script := [
  ⟨["nabataean", "nbat"], [(0x10880, 0x1089e), (0x108a7, 0x108af)]⟩,
  ⟨["nagmundari", "nagm"], [(0x1e4d0, 0x1e4f9)]⟩,
  ⟨["nandinagari", "nand"], [(0x119a0, 0x119a7), (0x119aa, 0x119d7), (0x119da, 0x119e4)]⟩,
  ⟨["newtailue", "talu"], [
    (0x1980, 0x19ab), (0x19b0, 0x19c9), (0x19d0, 0x19da), (0x19de, 0x19df)]⟩,
  ⟨["newa"], [(0x11400, 0x1145b), (0x1145d, 0x11461)]⟩,
  ⟨["nko", "nkoo"], [(0x7c0, 0x7fa), (0x7fd, 0x7ff)]⟩,
  ⟨["nushu", "nshu"], [(0x16fe1, 0x16fe1), (0x1b170, 0x1b2fb)]⟩,
  ⟨["nyiakengpuachuehmong", "hmnp"], [
    (0x1e100, 0x1e12c), (0x1e130, 0x1e13d), (0x1e140, 0x1e149), (0x1e14e, 0x1e14f)]⟩,
  ⟨["ogham", "ogam"], [(0x1680, 0x169c)]⟩,
  ⟨["olchiki", "olck"], [(0x1c50, 0x1c7f)]⟩,
  ⟨["olonal", "onao"], [(0x1e5d0, 0x1e5fa), (0x1e5ff, 0x1e5ff)]⟩,
  ⟨["oldhungarian", "hung"], [(0x10c80, 0x10cb2), (0x10cc0, 0x10cf2), (0x10cfa, 0x10cff)]⟩,
  ⟨["olditalic", "ital"], [(0x10300, 0x10323), (0x1032d, 0x1032f)]⟩,
  ⟨["oldnortharabian", "narb"], [(0x10a80, 0x10a9f)]⟩,
  ⟨["oldpermic", "perm"], [(0x10350, 0x1037a)]⟩,
  ⟨["oldpersian", "xpeo"], [(0x103a0, 0x103c3), (0x103c8, 0x103d5)]⟩,
  ⟨["oldsogdian", "sogo"], [(0x10f00, 0x10f27)]⟩,
  ⟨["oldsoutharabian", "sarb"], [(0x10a60, 0x10a7f)]⟩,
  ⟨["oldturkic", "orkh"], [(0x10c00, 0x10c48)]⟩,
  ⟨["olduyghur", "ougr"], [(0x10f70, 0x10f89)]⟩,
  ⟨["oriya", "orya"], [
    (0xb01, 0xb03), (0xb05, 0xb0c), (0xb0f, 0xb10), (0xb13, 0xb28), (0xb2a, 0xb30),
    (0xb32, 0xb33), (0xb35, 0xb39), (0xb3c, 0xb44), (0xb47, 0xb48), (0xb4b, 0xb4d),
    (0xb55, 0xb57), (0xb5c, 0xb5d), (0xb5f, 0xb63), (0xb66, 0xb77)]⟩,
  ⟨["osage", "osge"], [(0x104b0, 0x104d3), (0x104d8, 0x104fb)]⟩,
  ⟨["osmanya", "osma"], [(0x10480, 0x1049d), (0x104a0, 0x104a9)]⟩,
  ⟨["pahawhhmong", "hmng"], [
    (0x16b00, 0x16b45), (0x16b50, 0x16b59), (0x16b5b, 0x16b61), (0x16b63, 0x16b77),
    (0x16b7d, 0x16b8f)]⟩,
  ⟨["palmyrene", "palm"], [(0x10860, 0x1087f)]⟩,
  ⟨["paucinhau", "pauc"], [(0x11ac0, 0x11af8)]⟩,
  ⟨["phagspa", "phag"], [(0xa840, 0xa877)]⟩,
  ⟨["phoenician", "phnx"], [(0x10900, 0x1091b), (0x1091f, 0x1091f)]⟩,
  ⟨["psalterpahlavi", "phlp"], [(0x10b80, 0x10b91), (0x10b99, 0x10b9c), (0x10ba9, 0x10baf)]⟩,
  ⟨["rejang", "rjng"], [(0xa930, 0xa953), (0xa95f, 0xa95f)]⟩,
  ⟨["runic", "runr"], [(0x16a0, 0x16ea), (0x16ee, 0x16f8)]⟩,
  ⟨["samaritan", "samr"], [(0x800, 0x82d), (0x830, 0x83e)]⟩,
  ⟨["saurashtra", "saur"], [(0xa880, 0xa8c5), (0xa8ce, 0xa8d9)]⟩,
  ⟨["sharada", "shrd"], [(0x11180, 0x111df)]⟩,
  ⟨["shavian", "shaw"], [(0x10450, 0x1047f)]⟩,
  ⟨["siddham", "sidd"], [(0x11580, 0x115b5), (0x115b8, 0x115dd)]⟩,
  ⟨["signwriting", "sgnw"], [(0x1d800, 0x1da8b), (0x1da9b, 0x1da9f), (0x1daa1, 0x1daaf)]⟩,
  ⟨["sinhala", "sinh"], [
    (0xd81, 0xd83), (0xd85, 0xd96), (0xd9a, 0xdb1), (0xdb3, 0xdbb), (0xdbd, 0xdbd),
    (0xdc0, 0xdc6), (0xdca, 0xdca), (0xdcf, 0xdd4), (0xdd6, 0xdd6), (0xdd8, 0xddf),
    (0xde6, 0xdef), (0xdf2, 0xdf4), (0x111e1, 0x111f4)]⟩,
  ⟨["sogdian", "sogd"], [(0x10f30, 0x10f59)]⟩,
  ⟨["sorasompeng", "sora"], [(0x110d0, 0x110e8), (0x110f0, 0x110f9)]⟩,
  ⟨["soyombo", "soyo"], [(0x11a50, 0x11aa2)]⟩,
  ⟨["sundanese", "sund"], [(0x1b80, 0x1bbf), (0x1cc0, 0x1cc7)]⟩,
  ⟨["sunuwar", "sunu"], [(0x11bc0, 0x11be1), (0x11bf0, 0x11bf9)]⟩,
  ⟨["sylotinagri", "sylo"], [(0xa800, 0xa82c)]⟩,
  ⟨["syriac", "syrc"], [(0x700, 0x70d), (0x70f, 0x74a), (0x74d, 0x74f), (0x860, 0x86a)]⟩,
  ⟨["tagalog", "tglg"], [(0x1700, 0x1715), (0x171f, 0x171f)]⟩,
  ⟨["tagbanwa", "tagb"], [(0x1760, 0x176c), (0x176e, 0x1770), (0x1772, 0x1773)]⟩,
  ⟨["taile", "tale"], [(0x1950, 0x196d), (0x1970, 0x1974)]⟩,
  ⟨["taitham", "lana"], [
    (0x1a20, 0x1a5e), (0x1a60, 0x1a7c), (0x1a7f, 0x1a89), (0x1a90, 0x1a99), (0x1aa0, 0x1aad)]⟩,
  ⟨["taiviet", "tavt"], [(0xaa80, 0xaac2), (0xaadb, 0xaadf)]⟩,
  ⟨["takri", "takr"], [(0x11680, 0x116b9), (0x116c0, 0x116c9)]⟩,
  ⟨["tamil", "taml"], [
    (0xb82, 0xb83), (0xb85, 0xb8a), (0xb8e, 0xb90), (0xb92, 0xb95), (0xb99, 0xb9a),
    (0xb9c, 0xb9c), (0xb9e, 0xb9f), (0xba3, 0xba4), (0xba8, 0xbaa), (0xbae, 0xbb9),
    (0xbbe, 0xbc2), (0xbc6, 0xbc8), (0xbca, 0xbcd), (0xbd0, 0xbd0), (0xbd7, 0xbd7),
    (0xbe6, 0xbfa), (0x11fc0, 0x11ff1), (0x11fff, 0x11fff)]⟩,
  ⟨["tangsa", "tnsa"], [(0x16a70, 0x16abe), (0x16ac0, 0x16ac9)]⟩,
  ⟨["tangut", "tang"], [
    (0x16fe0, 0x16fe0), (0x17000, 0x187f7), (0x18800, 0x18aff), (0x18d00, 0x18d08)]⟩,
  ⟨["telugu", "telu"], [
    (0xc00, 0xc0c), (0xc0e, 0xc10), (0xc12, 0xc28), (0xc2a, 0xc39), (0xc3c, 0xc44),
    (0xc46, 0xc48), (0xc4a, 0xc4d), (0xc55, 0xc56), (0xc58, 0xc5a), (0xc5d, 0xc5d),
    (0xc60, 0xc63), (0xc66, 0xc6f), (0xc77, 0xc7f)]⟩,
  ⟨["thaana", "thaa"], [(0x780, 0x7b1)]⟩,
  ⟨["thai"], [(0xe01, 0xe3a), (0xe40, 0xe5b)]⟩,
  ⟨["tibetan", "tibt"], [
    (0xf00, 0xf47), (0xf49, 0xf6c), (0xf71, 0xf97), (0xf99, 0xfbc), (0xfbe, 0xfcc),
    (0xfce, 0xfd4), (0xfd9, 0xfda)]⟩,
  ⟨["tifinagh", "tfng"], [(0x2d30, 0x2d67), (0x2d6f, 0x2d70), (0x2d7f, 0x2d7f)]⟩,
  ⟨["tirhuta", "tirh"], [(0x11480, 0x114c7), (0x114d0, 0x114d9)]⟩,
  ⟨["todhri", "todr"], [(0x105c0, 0x105f3)]⟩,
  ⟨["toto"], [(0x1e290, 0x1e2ae)]⟩,
  ⟨["tulutigalari", "tutg"], [
    (0x11380, 0x11389), (0x1138b, 0x1138b), (0x1138e, 0x1138e), (0x11390, 0x113b5),
    (0x113b7, 0x113c0), (0x113c2, 0x113c2), (0x113c5, 0x113c5), (0x113c7, 0x113ca),
    (0x113cc, 0x113d5), (0x113d7, 0x113d8), (0x113e1, 0x113e2)]⟩,
  ⟨["ugaritic", "ugar"], [(0x10380, 0x1039d), (0x1039f, 0x1039f)]⟩,
  ⟨["vai", "vaii"], [(0xa500, 0xa62b)]⟩,
  ⟨["vithkuqi", "vith"], [
    (0x10570, 0x1057a), (0x1057c, 0x1058a), (0x1058c, 0x10592), (0x10594, 0x10595),
    (0x10597, 0x105a1), (0x105a3, 0x105b1), (0x105b3, 0x105b9), (0x105bb, 0x105bc)]⟩,
  ⟨["wancho", "wcho"], [(0x1e2c0, 0x1e2f9), (0x1e2ff, 0x1e2ff)]⟩,
  ⟨["warangciti", "wara"], [(0x118a0, 0x118f2), (0x118ff, 0x118ff)]⟩,
  ⟨["yezidi", "yezi"], [(0x10e80, 0x10ea9), (0x10eab, 0x10ead), (0x10eb0, 0x10eb1)]⟩,
  ⟨["yi", "yiii"], [(0xa000, 0xa48c), (0xa490, 0xa4c6)]⟩,
  ⟨["zanabazarsquare", "zanb"], [(0x11a00, 0x11a47)]⟩]

end Descent.CharSet
