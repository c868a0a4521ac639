import CatalogMigration.Text.Unprinted

namespace CatalogMigration.Url

/-- Every `step`-th of `count` steps from `first`, shifted by `distance`. -/
structure Shift where
  first : Nat
  count : Nat
  step : Nat
  distance : Int
deriving DecidableEq, Repr

def letterShifts : List Shift := [
  ⟨0xa0, 1, 1, -128⟩, ⟨0xaa, 1, 1, -73⟩, ⟨0xb2, 2, 1, -128⟩, ⟨0xb5, 1, 1, 775⟩, ⟨0xb9, 1, 1, -136⟩,
  ⟨0xba, 1, 1, -75⟩, ⟨0xc0, 23, 1, 32⟩, ⟨0xd8, 7, 1, 32⟩, ⟨0x100, 24, 2, 1⟩, ⟨0x134, 2, 2, 1⟩,
  ⟨0x139, 3, 2, 1⟩, ⟨0x141, 4, 2, 1⟩, ⟨0x14a, 23, 2, 1⟩, ⟨0x178, 1, 1, -121⟩, ⟨0x179, 3, 2, 1⟩,
  ⟨0x17f, 1, 1, -268⟩, ⟨0x181, 1, 1, 210⟩, ⟨0x182, 2, 2, 1⟩, ⟨0x186, 1, 1, 206⟩, ⟨0x187, 1, 1, 1⟩,
  ⟨0x189, 2, 1, 205⟩, ⟨0x18b, 1, 1, 1⟩, ⟨0x18e, 1, 1, 79⟩, ⟨0x18f, 1, 1, 202⟩, ⟨0x190, 1, 1, 203⟩,
  ⟨0x191, 1, 1, 1⟩, ⟨0x193, 1, 1, 205⟩, ⟨0x194, 1, 1, 207⟩, ⟨0x196, 1, 1, 211⟩, ⟨0x197, 1, 1, 209⟩,
  ⟨0x198, 1, 1, 1⟩, ⟨0x19c, 1, 1, 211⟩, ⟨0x19d, 1, 1, 213⟩, ⟨0x19f, 1, 1, 214⟩, ⟨0x1a0, 3, 2, 1⟩,
  ⟨0x1a6, 1, 1, 218⟩, ⟨0x1a7, 1, 1, 1⟩, ⟨0x1a9, 1, 1, 218⟩, ⟨0x1ac, 1, 1, 1⟩, ⟨0x1ae, 1, 1, 218⟩,
  ⟨0x1af, 1, 1, 1⟩, ⟨0x1b1, 2, 1, 217⟩, ⟨0x1b3, 2, 2, 1⟩, ⟨0x1b7, 1, 1, 219⟩, ⟨0x1b8, 1, 1, 1⟩,
  ⟨0x1bc, 1, 1, 1⟩, ⟨0x1cd, 8, 2, 1⟩, ⟨0x1de, 9, 2, 1⟩, ⟨0x1f4, 1, 1, 1⟩, ⟨0x1f6, 1, 1, -97⟩,
  ⟨0x1f7, 1, 1, -56⟩, ⟨0x1f8, 20, 2, 1⟩, ⟨0x220, 1, 1, -130⟩, ⟨0x222, 9, 2, 1⟩,
  ⟨0x23a, 1, 1, 10795⟩, ⟨0x23b, 1, 1, 1⟩, ⟨0x23d, 1, 1, -163⟩, ⟨0x23e, 1, 1, 10792⟩,
  ⟨0x241, 1, 1, 1⟩, ⟨0x243, 1, 1, -195⟩, ⟨0x244, 1, 1, 69⟩, ⟨0x245, 1, 1, 71⟩, ⟨0x246, 5, 2, 1⟩,
  ⟨0x2b0, 2, 2, -584⟩, ⟨0x2b1, 1, 1, -75⟩, ⟨0x2b3, 1, 1, -577⟩, ⟨0x2b4, 1, 1, -59⟩,
  ⟨0x2b5, 1, 1, -58⟩, ⟨0x2b6, 1, 1, -53⟩, ⟨0x2b7, 1, 1, -576⟩, ⟨0x2b8, 1, 1, -575⟩,
  ⟨0x2e0, 1, 1, -125⟩, ⟨0x2e1, 1, 1, -629⟩, ⟨0x2e2, 1, 1, -623⟩, ⟨0x2e3, 1, 1, -619⟩,
  ⟨0x2e4, 1, 1, -79⟩, ⟨0x340, 2, 1, -64⟩, ⟨0x343, 1, 1, -48⟩, ⟨0x345, 1, 1, 116⟩, ⟨0x370, 2, 2, 1⟩,
  ⟨0x374, 1, 1, -187⟩, ⟨0x376, 1, 1, 1⟩, ⟨0x37e, 1, 1, -835⟩, ⟨0x37f, 1, 1, 116⟩, ⟨0x386, 1, 1, 38⟩,
  ⟨0x387, 1, 1, -720⟩, ⟨0x388, 3, 1, 37⟩, ⟨0x38c, 1, 1, 64⟩, ⟨0x38e, 2, 1, 63⟩, ⟨0x391, 17, 1, 32⟩,
  ⟨0x3a3, 9, 1, 32⟩, ⟨0x3cf, 1, 1, 8⟩, ⟨0x3d0, 1, 1, -30⟩, ⟨0x3d1, 1, 1, -25⟩, ⟨0x3d2, 1, 1, -13⟩,
  ⟨0x3d3, 1, 1, -6⟩, ⟨0x3d4, 1, 1, -9⟩, ⟨0x3d5, 1, 1, -15⟩, ⟨0x3d6, 1, 1, -22⟩, ⟨0x3d8, 12, 2, 1⟩,
  ⟨0x3f0, 1, 1, -54⟩, ⟨0x3f1, 1, 1, -48⟩, ⟨0x3f2, 1, 1, -47⟩, ⟨0x3f4, 1, 1, -60⟩,
  ⟨0x3f5, 1, 1, -64⟩, ⟨0x3f7, 1, 1, 1⟩, ⟨0x3f9, 1, 1, -54⟩, ⟨0x3fa, 1, 1, 1⟩, ⟨0x3fd, 3, 1, -130⟩,
  ⟨0x400, 16, 1, 80⟩, ⟨0x410, 32, 1, 32⟩, ⟨0x460, 17, 2, 1⟩, ⟨0x48a, 27, 2, 1⟩, ⟨0x4c0, 1, 1, 15⟩,
  ⟨0x4c1, 7, 2, 1⟩, ⟨0x4d0, 48, 2, 1⟩, ⟨0x531, 38, 1, 48⟩, ⟨0xf0c, 1, 1, -1⟩, ⟨0x10a0, 38, 1, 7264⟩,
  ⟨0x10c7, 1, 1, 7264⟩, ⟨0x10cd, 1, 1, 7264⟩, ⟨0x10fc, 1, 1, -32⟩, ⟨0x13f8, 6, 1, -8⟩,
  ⟨0x1c80, 1, 1, -6222⟩, ⟨0x1c81, 1, 1, -6221⟩, ⟨0x1c82, 1, 1, -6212⟩, ⟨0x1c83, 2, 1, -6210⟩,
  ⟨0x1c85, 1, 1, -6211⟩, ⟨0x1c86, 1, 1, -6204⟩, ⟨0x1c87, 1, 1, -6180⟩, ⟨0x1c88, 1, 1, 35267⟩,
  ⟨0x1c89, 1, 1, 1⟩, ⟨0x1c90, 43, 1, -3008⟩, ⟨0x1cbd, 3, 1, -3008⟩, ⟨0x1d2c, 1, 1, -7371⟩,
  ⟨0x1d2d, 1, 1, -7239⟩, ⟨0x1d2e, 2, 2, -7372⟩, ⟨0x1d31, 5, 2, -7372⟩, ⟨0x1d32, 1, 1, -6997⟩,
  ⟨0x1d34, 4, 2, -7372⟩, ⟨0x1d3c, 1, 1, -7373⟩, ⟨0x1d3d, 1, 1, -6938⟩, ⟨0x1d3e, 1, 1, -7374⟩,
  ⟨0x1d3f, 1, 1, -7373⟩, ⟨0x1d40, 2, 1, -7372⟩, ⟨0x1d42, 1, 1, -7371⟩, ⟨0x1d43, 1, 1, -7394⟩,
  ⟨0x1d44, 2, 1, -6900⟩, ⟨0x1d46, 1, 1, -68⟩, ⟨0x1d47, 1, 1, -7397⟩, ⟨0x1d48, 2, 1, -7396⟩,
  ⟨0x1d4a, 1, 1, -6897⟩, ⟨0x1d4b, 2, 1, -6896⟩, ⟨0x1d4d, 1, 1, -7398⟩, ⟨0x1d4f, 1, 1, -7396⟩,
  ⟨0x1d50, 2, 2, -7395⟩, ⟨0x1d51, 1, 1, -7174⟩, ⟨0x1d53, 1, 1, -6911⟩, ⟨0x1d54, 2, 1, -62⟩,
  ⟨0x1d56, 1, 1, -7398⟩, ⟨0x1d57, 2, 1, -7395⟩, ⟨0x1d59, 1, 1, -60⟩, ⟨0x1d5a, 1, 1, -6891⟩,
  ⟨0x1d5b, 1, 1, -7397⟩, ⟨0x1d5c, 1, 1, -55⟩, ⟨0x1d5d, 3, 1, -6571⟩, ⟨0x1d60, 2, 1, -6554⟩,
  ⟨0x1d62, 1, 1, -7417⟩, ⟨0x1d63, 1, 1, -7409⟩, ⟨0x1d64, 2, 1, -7407⟩, ⟨0x1d66, 2, 1, -6580⟩,
  ⟨0x1d68, 1, 1, -6567⟩, ⟨0x1d69, 2, 1, -6563⟩, ⟨0x1d78, 1, 1, -6459⟩, ⟨0x1d9b, 1, 1, -6985⟩,
  ⟨0x1d9c, 1, 1, -7481⟩, ⟨0x1d9d, 1, 1, -6984⟩, ⟨0x1d9e, 1, 1, -7342⟩, ⟨0x1d9f, 1, 1, -6979⟩,
  ⟨0x1da0, 1, 1, -7482⟩, ⟨0x1da1, 1, 1, -6978⟩, ⟨0x1da2, 1, 1, -6977⟩, ⟨0x1da3, 1, 1, -6974⟩,
  ⟨0x1da4, 3, 1, -6972⟩, ⟨0x1da7, 1, 1, -44⟩, ⟨0x1da8, 1, 1, -6923⟩, ⟨0x1da9, 1, 1, -6972⟩,
  ⟨0x1daa, 1, 1, -37⟩, ⟨0x1dab, 1, 1, -6924⟩, ⟨0x1dac, 1, 1, -6971⟩, ⟨0x1dad, 1, 1, -6973⟩,
  ⟨0x1dae, 4, 1, -6972⟩, ⟨0x1db2, 1, 1, -6970⟩, ⟨0x1db3, 2, 1, -6961⟩, ⟨0x1db5, 1, 1, -7178⟩,
  ⟨0x1db6, 2, 1, -6957⟩, ⟨0x1db8, 1, 1, -156⟩, ⟨0x1db9, 2, 1, -6958⟩, ⟨0x1dbb, 1, 1, -7489⟩,
  ⟨0x1dbc, 3, 1, -6956⟩, ⟨0x1dbf, 1, 1, -6663⟩]

def laterLetterShifts : List Shift := [
  ⟨0x1e00, 75, 2, 1⟩, ⟨0x1e9b, 1, 1, -58⟩, ⟨0x1e9e, 1, 1, -7615⟩, ⟨0x1ea0, 48, 2, 1⟩,
  ⟨0x1f08, 8, 1, -8⟩, ⟨0x1f18, 6, 1, -8⟩, ⟨0x1f28, 8, 1, -8⟩, ⟨0x1f38, 8, 1, -8⟩,
  ⟨0x1f48, 6, 1, -8⟩, ⟨0x1f59, 4, 2, -8⟩, ⟨0x1f68, 8, 1, -8⟩, ⟨0x1f71, 1, 1, -7109⟩,
  ⟨0x1f73, 1, 1, -7110⟩, ⟨0x1f75, 1, 1, -7111⟩, ⟨0x1f77, 1, 1, -7112⟩, ⟨0x1f79, 1, 1, -7085⟩,
  ⟨0x1f7b, 1, 1, -7086⟩, ⟨0x1f7d, 1, 1, -7087⟩, ⟨0x1fb8, 2, 1, -8⟩, ⟨0x1fba, 1, 1, -74⟩,
  ⟨0x1fbb, 1, 1, -7183⟩, ⟨0x1fbe, 1, 1, -7173⟩, ⟨0x1fc8, 2, 2, -86⟩, ⟨0x1fc9, 1, 1, -7196⟩,
  ⟨0x1fcb, 1, 1, -7197⟩, ⟨0x1fd3, 1, 1, -7235⟩, ⟨0x1fd8, 2, 1, -8⟩, ⟨0x1fda, 1, 1, -100⟩,
  ⟨0x1fdb, 1, 1, -7212⟩, ⟨0x1fe3, 1, 1, -7219⟩, ⟨0x1fe8, 2, 1, -8⟩, ⟨0x1fea, 1, 1, -112⟩,
  ⟨0x1feb, 1, 1, -7198⟩, ⟨0x1fec, 1, 1, -7⟩, ⟨0x1fef, 1, 1, -8079⟩, ⟨0x1ff8, 1, 1, -128⟩,
  ⟨0x1ff9, 2, 2, -7213⟩, ⟨0x1ffa, 1, 1, -126⟩, ⟨0x2000, 1, 1, -8160⟩, ⟨0x2001, 1, 1, -8161⟩,
  ⟨0x2002, 1, 1, -8162⟩, ⟨0x2003, 1, 1, -8163⟩, ⟨0x2004, 1, 1, -8164⟩, ⟨0x2005, 1, 1, -8165⟩,
  ⟨0x2006, 1, 1, -8166⟩, ⟨0x2007, 1, 1, -8167⟩, ⟨0x2008, 1, 1, -8168⟩, ⟨0x2009, 1, 1, -8169⟩,
  ⟨0x200a, 1, 1, -8170⟩, ⟨0x2011, 1, 1, -1⟩, ⟨0x202f, 1, 1, -8207⟩, ⟨0x205f, 1, 1, -8255⟩,
  ⟨0x2070, 1, 1, -8256⟩, ⟨0x2071, 1, 1, -8200⟩, ⟨0x2074, 6, 1, -8256⟩, ⟨0x207a, 1, 1, -8271⟩,
  ⟨0x207b, 1, 1, 407⟩, ⟨0x207c, 1, 1, -8255⟩, ⟨0x207d, 2, 1, -8277⟩, ⟨0x207f, 1, 1, -8209⟩,
  ⟨0x2080, 10, 1, -8272⟩, ⟨0x208a, 1, 1, -8287⟩, ⟨0x208b, 1, 1, 391⟩, ⟨0x208c, 1, 1, -8271⟩,
  ⟨0x208d, 2, 1, -8293⟩, ⟨0x2090, 1, 1, -8239⟩, ⟨0x2091, 1, 1, -8236⟩, ⟨0x2092, 1, 1, -8227⟩,
  ⟨0x2093, 1, 1, -8219⟩, ⟨0x2094, 1, 1, -7739⟩, ⟨0x2095, 1, 1, -8237⟩, ⟨0x2096, 4, 1, -8235⟩,
  ⟨0x209a, 1, 1, -8234⟩, ⟨0x209b, 2, 1, -8232⟩, ⟨0x2102, 1, 1, -8351⟩, ⟨0x2107, 1, 1, -7852⟩,
  ⟨0x210a, 2, 1, -8355⟩, ⟨0x210c, 1, 1, -8356⟩, ⟨0x210d, 1, 1, -8357⟩, ⟨0x210e, 1, 1, -8358⟩,
  ⟨0x210f, 1, 1, -8168⟩, ⟨0x2110, 1, 1, -8359⟩, ⟨0x2111, 1, 1, -8360⟩, ⟨0x2112, 1, 1, -8358⟩,
  ⟨0x2113, 2, 2, -8359⟩, ⟨0x2119, 3, 1, -8361⟩, ⟨0x211c, 1, 1, -8362⟩, ⟨0x211d, 1, 1, -8363⟩,
  ⟨0x2124, 1, 1, -8362⟩, ⟨0x2126, 1, 1, -7517⟩, ⟨0x2128, 1, 1, -8366⟩, ⟨0x212a, 1, 1, -8383⟩,
  ⟨0x212b, 1, 1, -8262⟩, ⟨0x212c, 2, 1, -8394⟩, ⟨0x212f, 1, 1, -8394⟩, ⟨0x2130, 2, 1, -8395⟩,
  ⟨0x2132, 1, 1, 28⟩, ⟨0x2133, 1, 1, -8390⟩, ⟨0x2134, 1, 1, -8389⟩, ⟨0x2135, 4, 1, -7013⟩,
  ⟨0x2139, 1, 1, -8400⟩, ⟨0x213c, 1, 1, -7548⟩, ⟨0x213d, 1, 1, -7562⟩, ⟨0x213e, 1, 1, -7563⟩,
  ⟨0x213f, 1, 1, -7551⟩, ⟨0x2140, 1, 1, 209⟩, ⟨0x2145, 1, 1, -8417⟩, ⟨0x2146, 2, 1, -8418⟩,
  ⟨0x2148, 2, 1, -8415⟩, ⟨0x2160, 1, 1, -8439⟩, ⟨0x2164, 1, 1, -8430⟩, ⟨0x2169, 1, 1, -8433⟩,
  ⟨0x216c, 1, 1, -8448⟩, ⟨0x216d, 2, 1, -8458⟩, ⟨0x216f, 1, 1, -8450⟩, ⟨0x2170, 1, 1, -8455⟩,
  ⟨0x2174, 1, 1, -8446⟩, ⟨0x2179, 1, 1, -8449⟩, ⟨0x217c, 1, 1, -8464⟩, ⟨0x217d, 2, 1, -8474⟩,
  ⟨0x217f, 1, 1, -8466⟩, ⟨0x2183, 1, 1, 1⟩, ⟨0x2329, 2, 1, 3295⟩, ⟨0x2460, 9, 1, -9263⟩,
  ⟨0x24b6, 26, 1, -9301⟩, ⟨0x24d0, 26, 1, -9327⟩, ⟨0x24ea, 1, 1, -9402⟩, ⟨0x2c00, 48, 1, 48⟩,
  ⟨0x2c60, 1, 1, 1⟩, ⟨0x2c62, 1, 1, -10743⟩, ⟨0x2c63, 1, 1, -3814⟩, ⟨0x2c64, 1, 1, -10727⟩,
  ⟨0x2c67, 3, 2, 1⟩, ⟨0x2c6d, 1, 1, -10780⟩, ⟨0x2c6e, 1, 1, -10749⟩, ⟨0x2c6f, 1, 1, -10783⟩,
  ⟨0x2c70, 1, 1, -10782⟩, ⟨0x2c72, 1, 1, 1⟩, ⟨0x2c75, 1, 1, 1⟩, ⟨0x2c7c, 1, 1, -11282⟩,
  ⟨0x2c7d, 1, 1, -11271⟩, ⟨0x2c7e, 2, 1, -10815⟩, ⟨0x2c80, 50, 2, 1⟩, ⟨0x2ceb, 2, 2, 1⟩,
  ⟨0x2cf2, 1, 1, 1⟩, ⟨0x2d6f, 1, 1, -14⟩]

def radicalShifts : List Shift := [
  ⟨0x2e9f, 1, 1, 15662⟩, ⟨0x2ef3, 1, 1, 28844⟩, ⟨0x2f00, 1, 1, 7936⟩, ⟨0x2f01, 1, 1, 7975⟩,
  ⟨0x2f02, 1, 1, 7988⟩, ⟨0x2f03, 1, 1, 7996⟩, ⟨0x2f04, 1, 1, 8021⟩, ⟨0x2f05, 1, 1, 8064⟩,
  ⟨0x2f06, 1, 1, 8070⟩, ⟨0x2f07, 1, 1, 8089⟩, ⟨0x2f08, 1, 1, 8114⟩, ⟨0x2f09, 1, 1, 8758⟩,
  ⟨0x2f0a, 1, 1, 8795⟩, ⟨0x2f0b, 1, 1, 8800⟩, ⟨0x2f0c, 1, 1, 8822⟩, ⟨0x2f0d, 1, 1, 8841⟩,
  ⟨0x2f0e, 1, 1, 8861⟩, ⟨0x2f0f, 1, 1, 8913⟩, ⟨0x2f10, 1, 1, 8933⟩, ⟨0x2f11, 1, 1, 8943⟩,
  ⟨0x2f12, 1, 1, 9097⟩, ⟨0x2f13, 1, 1, 9190⟩, ⟨0x2f14, 1, 1, 9217⟩, ⟨0x2f15, 1, 1, 9221⟩,
  ⟨0x2f16, 1, 1, 9250⟩, ⟨0x2f17, 1, 1, 9258⟩, ⟨0x2f18, 1, 1, 9284⟩, ⟨0x2f19, 1, 1, 9296⟩,
  ⟨0x2f1a, 1, 1, 9320⟩, ⟨0x2f1b, 1, 1, 9371⟩, ⟨0x2f1c, 1, 1, 9388⟩, ⟨0x2f1d, 1, 1, 9414⟩,
  ⟨0x2f1e, 1, 1, 10169⟩, ⟨0x2f1f, 1, 1, 10240⟩, ⟨0x2f20, 1, 1, 10699⟩, ⟨0x2f21, 1, 1, 10721⟩,
  ⟨0x2f22, 1, 1, 10728⟩, ⟨0x2f23, 1, 1, 10738⟩, ⟨0x2f24, 1, 1, 10755⟩, ⟨0x2f25, 1, 1, 10830⟩,
  ⟨0x2f26, 1, 1, 11306⟩, ⟨0x2f27, 1, 1, 11353⟩, ⟨0x2f28, 1, 1, 11472⟩, ⟨0x2f29, 1, 1, 11494⟩,
  ⟨0x2f2a, 1, 1, 11512⟩, ⟨0x2f2b, 1, 1, 11533⟩, ⟨0x2f2c, 1, 1, 11586⟩, ⟨0x2f2d, 1, 1, 11588⟩,
  ⟨0x2f2e, 1, 1, 11949⟩, ⟨0x2f2f, 1, 1, 11958⟩, ⟨0x2f30, 1, 1, 11969⟩, ⟨0x2f31, 1, 1, 11981⟩,
  ⟨0x2f32, 1, 1, 12096⟩, ⟨0x2f33, 1, 1, 12103⟩, ⟨0x2f34, 1, 1, 12107⟩, ⟨0x2f35, 1, 1, 12223⟩,
  ⟨0x2f36, 1, 1, 12232⟩, ⟨0x2f37, 1, 1, 12244⟩, ⟨0x2f38, 1, 1, 12251⟩, ⟨0x2f39, 1, 1, 12311⟩,
  ⟨0x2f3a, 1, 1, 12327⟩, ⟨0x2f3b, 1, 1, 12344⟩, ⟨0x2f3c, 1, 1, 12423⟩, ⟨0x2f3d, 1, 1, 13003⟩,
  ⟨0x2f3e, 1, 1, 13048⟩, ⟨0x2f3f, 1, 1, 13068⟩, ⟨0x2f40, 1, 1, 13807⟩, ⟨0x2f41, 1, 1, 13811⟩,
  ⟨0x2f42, 1, 1, 13893⟩, ⟨0x2f43, 1, 1, 13908⟩, ⟨0x2f44, 1, 1, 13920⟩, ⟨0x2f45, 1, 1, 13940⟩,
  ⟨0x2f46, 1, 1, 13978⟩, ⟨0x2f47, 1, 1, 13982⟩, ⟨0x2f48, 1, 1, 14248⟩, ⟨0x2f49, 1, 1, 14271⟩,
  ⟨0x2f4a, 1, 1, 14302⟩, ⟨0x2f4b, 1, 1, 15317⟩, ⟨0x2f4c, 1, 1, 15382⟩, ⟨0x2f4d, 1, 1, 15404⟩,
  ⟨0x2f4e, 1, 1, 15461⟩, ⟨0x2f4f, 1, 1, 15484⟩, ⟨0x2f50, 1, 1, 15492⟩, ⟨0x2f51, 1, 1, 15498⟩,
  ⟨0x2f52, 1, 1, 15549⟩, ⟨0x2f53, 1, 1, 15553⟩, ⟨0x2f54, 1, 1, 15584⟩, ⟨0x2f55, 1, 1, 16662⟩,
  ⟨0x2f56, 1, 1, 17108⟩, ⟨0x2f57, 1, 1, 17119⟩, ⟨0x2f58, 1, 1, 17123⟩, ⟨0x2f59, 1, 1, 17126⟩,
  ⟨0x2f5a, 1, 1, 17133⟩, ⟨0x2f5b, 1, 1, 17150⟩, ⟨0x2f5c, 1, 1, 17151⟩, ⟨0x2f5d, 1, 1, 17231⟩,
  ⟨0x2f5e, 1, 1, 17446⟩, ⟨0x2f5f, 1, 1, 17450⟩, ⟨0x2f60, 1, 1, 17788⟩, ⟨0x2f61, 1, 1, 17797⟩,
  ⟨0x2f62, 1, 1, 17846⟩, ⟨0x2f63, 1, 1, 17852⟩, ⟨0x2f64, 1, 1, 17860⟩, ⟨0x2f65, 1, 1, 17867⟩,
  ⟨0x2f66, 1, 1, 17957⟩, ⟨0x2f67, 1, 1, 17963⟩, ⟨0x2f68, 1, 1, 18190⟩, ⟨0x2f69, 1, 1, 18196⟩,
  ⟨0x2f6a, 1, 1, 18244⟩, ⟨0x2f6b, 1, 1, 18260⟩, ⟨0x2f6c, 1, 1, 18306⟩, ⟨0x2f6d, 1, 1, 18542⟩,
  ⟨0x2f6e, 1, 1, 18548⟩, ⟨0x2f6f, 1, 1, 18564⟩, ⟨0x2f70, 1, 1, 18890⟩, ⟨0x2f71, 1, 1, 19015⟩,
  ⟨0x2f72, 1, 1, 19020⟩, ⟨0x2f73, 1, 1, 19201⟩, ⟨0x2f74, 1, 1, 19287⟩, ⟨0x2f75, 1, 1, 19332⟩,
  ⟨0x2f76, 1, 1, 19709⟩, ⟨0x2f77, 1, 1, 19841⟩, ⟨0x2f78, 1, 1, 20414⟩, ⟨0x2f79, 1, 1, 20440⟩,
  ⟨0x2f7a, 1, 1, 20496⟩, ⟨0x2f7b, 1, 1, 20546⟩, ⟨0x2f7c, 1, 1, 20613⟩, ⟨0x2f7d, 1, 1, 20623⟩,
  ⟨0x2f7e, 1, 1, 20628⟩, ⟨0x2f7f, 1, 1, 20660⟩, ⟨0x2f80, 1, 1, 20735⟩, ⟨0x2f81, 1, 1, 20744⟩,
  ⟨0x2f82, 1, 1, 21089⟩, ⟨0x2f83, 1, 1, 21095⟩, ⟨0x2f84, 1, 1, 21103⟩, ⟨0x2f85, 1, 1, 21111⟩,
  ⟨0x2f86, 1, 1, 21126⟩, ⟨0x2f87, 1, 1, 21140⟩, ⟨0x2f88, 1, 1, 21143⟩, ⟨0x2f89, 1, 1, 21221⟩,
  ⟨0x2f8a, 1, 1, 21224⟩, ⟨0x2f8b, 1, 1, 21229⟩, ⟨0x2f8c, 1, 1, 22209⟩, ⟨0x2f8d, 1, 1, 22238⟩,
  ⟨0x2f8e, 1, 1, 22706⟩, ⟨0x2f8f, 1, 1, 22717⟩, ⟨0x2f90, 1, 1, 22739⟩, ⟨0x2f91, 1, 1, 23021⟩,
  ⟨0x2f92, 1, 1, 23033⟩, ⟨0x2f93, 1, 1, 23103⟩, ⟨0x2f94, 1, 1, 23148⟩, ⟨0x2f95, 1, 1, 23714⟩,
  ⟨0x2f96, 1, 1, 23728⟩, ⟨0x2f97, 1, 1, 23742⟩, ⟨0x2f98, 1, 1, 23776⟩, ⟨0x2f99, 1, 1, 23812⟩,
  ⟨0x2f9a, 1, 1, 24010⟩, ⟨0x2f9b, 1, 1, 24021⟩, ⟨0x2f9c, 1, 1, 24087⟩, ⟨0x2f9d, 1, 1, 24334⟩,
  ⟨0x2f9e, 1, 1, 24364⟩, ⟨0x2f9f, 1, 1, 24572⟩, ⟨0x2fa0, 1, 1, 24592⟩, ⟨0x2fa1, 1, 1, 24596⟩,
  ⟨0x2fa2, 1, 1, 24815⟩, ⟨0x2fa3, 1, 1, 24998⟩, ⟨0x2fa4, 1, 1, 25122⟩, ⟨0x2fa5, 1, 1, 25127⟩,
  ⟨0x2fa6, 1, 1, 25131⟩, ⟨0x2fa7, 1, 1, 26064⟩, ⟨0x2fa8, 1, 1, 26072⟩, ⟨0x2fa9, 1, 1, 26227⟩,
  ⟨0x2faa, 1, 1, 26380⟩, ⟨0x2fab, 1, 1, 26382⟩, ⟨0x2fac, 1, 1, 26428⟩, ⟨0x2fad, 1, 1, 26532⟩,
  ⟨0x2fae, 1, 1, 26544⟩, ⟨0x2faf, 1, 1, 26547⟩, ⟨0x2fb0, 1, 1, 26553⟩, ⟨0x2fb1, 1, 1, 26650⟩,
  ⟨0x2fb2, 1, 1, 26683⟩, ⟨0x2fb3, 1, 1, 26688⟩, ⟨0x2fb4, 1, 1, 26701⟩, ⟨0x2fb5, 1, 1, 26867⟩,
  ⟨0x2fb6, 1, 1, 26917⟩, ⟨0x2fb7, 1, 1, 26920⟩, ⟨0x2fb8, 1, 1, 27102⟩, ⟨0x2fb9, 1, 1, 27104⟩,
  ⟨0x2fba, 1, 1, 27122⟩, ⟨0x2fbb, 1, 1, 27373⟩, ⟨0x2fbc, 1, 1, 27420⟩, ⟨0x2fbd, 1, 1, 27426⟩,
  ⟨0x2fbe, 1, 1, 27495⟩, ⟨0x2fbf, 1, 1, 27504⟩, ⟨0x2fc0, 1, 1, 27506⟩, ⟨0x2fc1, 1, 1, 27515⟩,
  ⟨0x2fc2, 1, 1, 27544⟩, ⟨0x2fc3, 1, 1, 27938⟩, ⟨0x2fc4, 1, 1, 28337⟩, ⟨0x2fc5, 1, 1, 28346⟩,
  ⟨0x2fc6, 1, 1, 28383⟩, ⟨0x2fc7, 1, 1, 28404⟩, ⟨0x2fc8, 1, 1, 28411⟩, ⟨0x2fc9, 1, 1, 28420⟩,
  ⟨0x2fca, 1, 1, 28423⟩, ⟨0x2fcb, 1, 1, 28462⟩, ⟨0x2fcc, 1, 1, 28465⟩, ⟨0x2fcd, 1, 1, 28481⟩,
  ⟨0x2fce, 1, 1, 28485⟩, ⟨0x2fcf, 1, 1, 28497⟩, ⟨0x2fd0, 1, 1, 28523⟩, ⟨0x2fd1, 1, 1, 28537⟩,
  ⟨0x2fd2, 1, 1, 28544⟩, ⟨0x2fd3, 1, 1, 28602⟩, ⟨0x2fd4, 1, 1, 28616⟩, ⟨0x2fd5, 1, 1, 28619⟩,
  ⟨0x3000, 1, 1, -12256⟩, ⟨0x3002, 1, 1, -12244⟩, ⟨0x3036, 1, 1, -36⟩, ⟨0x3038, 1, 1, 8969⟩,
  ⟨0x3039, 2, 1, 8971⟩, ⟨0x3131, 2, 1, -8241⟩, ⟨0x3133, 2, 2, -8073⟩, ⟨0x3134, 1, 1, -8242⟩,
  ⟨0x3136, 1, 1, -8073⟩, ⟨0x3137, 3, 1, -8244⟩, ⟨0x313a, 6, 1, -8074⟩, ⟨0x3140, 1, 1, -8230⟩,
  ⟨0x3141, 3, 1, -8251⟩, ⟨0x3144, 1, 1, -8227⟩, ⟨0x3145, 10, 1, -8252⟩, ⟨0x314f, 21, 1, -8174⟩,
  ⟨0x3165, 2, 1, -8273⟩, ⟨0x3167, 2, 1, -8096⟩, ⟨0x3169, 1, 1, -8093⟩, ⟨0x316a, 1, 1, -8092⟩,
  ⟨0x316b, 1, 1, -8088⟩, ⟨0x316c, 1, 1, -8085⟩, ⟨0x316d, 1, 1, -8084⟩, ⟨0x316e, 1, 1, -8274⟩,
  ⟨0x316f, 1, 1, -8082⟩, ⟨0x3170, 1, 1, -8081⟩, ⟨0x3171, 2, 1, -8276⟩, ⟨0x3173, 1, 1, -8275⟩,
  ⟨0x3174, 2, 1, -8274⟩, ⟨0x3176, 1, 1, -8271⟩, ⟨0x3177, 1, 1, -8270⟩, ⟨0x3178, 5, 1, -8269⟩,
  ⟨0x317d, 1, 1, -8267⟩, ⟨0x317e, 1, 1, -8264⟩, ⟨0x317f, 1, 1, -8255⟩, ⟨0x3180, 1, 1, -8249⟩,
  ⟨0x3181, 1, 1, -8245⟩, ⟨0x3182, 2, 1, -8081⟩, ⟨0x3184, 3, 1, -8237⟩, ⟨0x3187, 2, 1, -8195⟩,
  ⟨0x3189, 1, 1, -8193⟩, ⟨0x318a, 2, 1, -8185⟩, ⟨0x318c, 1, 1, -8184⟩, ⟨0x318d, 1, 1, -8175⟩,
  ⟨0x318e, 1, 1, -8173⟩, ⟨0x3192, 1, 1, 7278⟩, ⟨0x3193, 1, 1, 7417⟩, ⟨0x3194, 1, 1, 7285⟩,
  ⟨0x3195, 1, 1, 9542⟩, ⟨0x3196, 1, 1, 7284⟩, ⟨0x3197, 1, 1, 7318⟩, ⟨0x3198, 1, 1, 7283⟩,
  ⟨0x3199, 1, 1, 17305⟩, ⟨0x319a, 1, 1, 7359⟩, ⟨0x319b, 1, 1, 7294⟩, ⟨0x319c, 1, 1, 7269⟩,
  ⟨0x319d, 1, 1, 10124⟩, ⟨0x319e, 1, 1, 9618⟩, ⟨0x319f, 1, 1, 7451⟩, ⟨0x3244, 1, 1, 8971⟩,
  ⟨0x3245, 1, 1, 11319⟩, ⟨0x3246, 1, 1, 13121⟩, ⟨0x3247, 1, 1, 18760⟩, ⟨0x3260, 1, 1, -8544⟩,
  ⟨0x3261, 2, 1, -8543⟩, ⟨0x3263, 3, 1, -8542⟩, ⟨0x3266, 1, 1, -8541⟩, ⟨0x3267, 2, 1, -8540⟩,
  ⟨0x3269, 5, 1, -8539⟩, ⟨0x326e, 1, 1, 31122⟩, ⟨0x326f, 1, 1, 32297⟩, ⟨0x3270, 1, 1, 32884⟩,
  ⟨0x3271, 1, 1, 34059⟩, ⟨0x3272, 1, 1, 34646⟩, ⟨0x3273, 1, 1, 35233⟩, ⟨0x3274, 1, 1, 36408⟩,
  ⟨0x3275, 1, 1, 37583⟩, ⟨0x3276, 1, 1, 38170⟩, ⟨0x3277, 1, 1, 39345⟩, ⟨0x3278, 1, 1, 39932⟩,
  ⟨0x3279, 1, 1, 40519⟩, ⟨0x327a, 1, 1, 41106⟩, ⟨0x327b, 1, 1, 41693⟩, ⟨0x327e, 1, 1, 37938⟩,
  ⟨0x3280, 1, 1, 7040⟩, ⟨0x3281, 1, 1, 7179⟩, ⟨0x3282, 1, 1, 7047⟩, ⟨0x3283, 1, 1, 9304⟩,
  ⟨0x3284, 1, 1, 7184⟩, ⟨0x3285, 1, 1, 7912⟩, ⟨0x3286, 1, 1, 7037⟩, ⟨0x3287, 1, 1, 7908⟩,
  ⟨0x3288, 1, 1, 7125⟩, ⟨0x3289, 1, 1, 8376⟩, ⟨0x328a, 1, 1, 13438⟩, ⟨0x328b, 1, 1, 15840⟩,
  ⟨0x328c, 1, 1, 14760⟩, ⟨0x328d, 1, 1, 13467⟩, ⟨0x328e, 1, 1, 24387⟩, ⟨0x328f, 1, 1, 9360⟩,
  ⟨0x3290, 1, 1, 13141⟩, ⟨0x3291, 1, 1, 13721⟩, ⟨0x3292, 1, 1, 13431⟩, ⟨0x3293, 1, 1, 18091⟩,
  ⟨0x3294, 1, 1, 8569⟩, ⟨0x3295, 1, 1, 16356⟩, ⟨0x3296, 1, 1, 23051⟩, ⟨0x3297, 1, 1, 18118⟩,
  ⟨0x3298, 1, 1, 8220⟩, ⟨0x3299, 1, 1, 18239⟩, ⟨0x329a, 1, 1, 17053⟩, ⟨0x329b, 1, 1, 9944⟩,
  ⟨0x329c, 1, 1, 24013⟩, ⟨0x329d, 1, 1, 7821⟩, ⟨0x329e, 1, 1, 8402⟩, ⟨0x329f, 1, 1, 14921⟩,
  ⟨0x32a0, 1, 1, 25957⟩, ⟨0x32a1, 1, 1, 7280⟩, ⟨0x32a2, 1, 1, 7927⟩, ⟨0x32a3, 1, 1, 14528⟩,
  ⟨0x32a4, 1, 1, 7014⟩, ⟨0x32a5, 1, 1, 7048⟩, ⟨0x32a6, 1, 1, 7013⟩, ⟨0x32a7, 1, 1, 11071⟩,
  ⟨0x32a8, 1, 1, 8523⟩, ⟨0x32a9, 1, 1, 8338⟩, ⟨0x32aa, 1, 1, 10477⟩, ⟨0x32ab, 1, 1, 10427⟩,
  ⟨0x32ac, 1, 1, 17463⟩, ⟨0x32ad, 1, 1, 7252⟩, ⟨0x32ae, 1, 1, 23065⟩, ⟨0x32af, 1, 1, 8357⟩,
  ⟨0x32b0, 1, 1, 9836⟩, ⟨0x32d0, 1, 1, -558⟩, ⟨0x32d1, 1, 1, -557⟩, ⟨0x32d2, 1, 1, -556⟩,
  ⟨0x32d3, 1, 1, -555⟩, ⟨0x32d4, 2, 1, -554⟩, ⟨0x32d6, 1, 1, -553⟩, ⟨0x32d7, 1, 1, -552⟩,
  ⟨0x32d8, 1, 1, -551⟩, ⟨0x32d9, 1, 1, -550⟩, ⟨0x32da, 1, 1, -549⟩, ⟨0x32db, 1, 1, -548⟩,
  ⟨0x32dc, 1, 1, -547⟩, ⟨0x32dd, 1, 1, -546⟩, ⟨0x32de, 1, 1, -545⟩, ⟨0x32df, 1, 1, -544⟩,
  ⟨0x32e0, 1, 1, -543⟩, ⟨0x32e1, 1, 1, -541⟩, ⟨0x32e2, 1, 1, -540⟩, ⟨0x32e3, 1, 1, -539⟩,
  ⟨0x32e4, 6, 1, -538⟩, ⟨0x32ea, 1, 1, -536⟩, ⟨0x32eb, 1, 1, -534⟩, ⟨0x32ec, 1, 1, -532⟩,
  ⟨0x32ed, 1, 1, -530⟩, ⟨0x32ee, 5, 1, -528⟩, ⟨0x32f3, 1, 1, -527⟩, ⟨0x32f4, 1, 1, -526⟩,
  ⟨0x32f5, 6, 1, -525⟩, ⟨0x32fb, 4, 1, -524⟩, ⟨0xa640, 23, 2, 1⟩, ⟨0xa680, 14, 2, 1⟩,
  ⟨0xa69c, 1, 1, -41554⟩, ⟨0xa69d, 1, 1, -41553⟩, ⟨0xa722, 7, 2, 1⟩, ⟨0xa732, 31, 2, 1⟩,
  ⟨0xa770, 1, 1, -1⟩, ⟨0xa779, 2, 2, 1⟩, ⟨0xa77d, 1, 1, -35332⟩, ⟨0xa77e, 5, 2, 1⟩,
  ⟨0xa78b, 1, 1, 1⟩, ⟨0xa78d, 1, 1, -42280⟩, ⟨0xa790, 2, 2, 1⟩, ⟨0xa796, 10, 2, 1⟩,
  ⟨0xa7aa, 1, 1, -42308⟩, ⟨0xa7ab, 1, 1, -42319⟩, ⟨0xa7ac, 1, 1, -42315⟩, ⟨0xa7ad, 1, 1, -42305⟩,
  ⟨0xa7ae, 1, 1, -42308⟩, ⟨0xa7b0, 1, 1, -42258⟩, ⟨0xa7b1, 1, 1, -42282⟩, ⟨0xa7b2, 1, 1, -42261⟩,
  ⟨0xa7b3, 1, 1, 928⟩, ⟨0xa7b4, 8, 2, 1⟩, ⟨0xa7c4, 1, 1, -48⟩, ⟨0xa7c5, 1, 1, -42307⟩,
  ⟨0xa7c6, 1, 1, -35384⟩, ⟨0xa7c7, 2, 2, 1⟩, ⟨0xa7cb, 1, 1, -42343⟩, ⟨0xa7cc, 8, 2, 1⟩,
  ⟨0xa7dc, 1, 1, -42561⟩, ⟨0xa7f1, 1, 1, -42878⟩, ⟨0xa7f2, 1, 1, -42895⟩, ⟨0xa7f3, 1, 1, -42893⟩,
  ⟨0xa7f4, 1, 1, -42883⟩, ⟨0xa7f5, 1, 1, 1⟩, ⟨0xa7f8, 1, 1, -42705⟩, ⟨0xa7f9, 1, 1, -42662⟩,
  ⟨0xab5c, 1, 1, -1077⟩, ⟨0xab5d, 1, 1, -38⟩, ⟨0xab5e, 1, 1, -43251⟩, ⟨0xab5f, 1, 1, -13⟩,
  ⟨0xab69, 1, 1, -43228⟩, ⟨0xab70, 80, 1, -38864⟩]

def ideographShifts : List Shift := [
  ⟨0xf900, 1, 1, -27832⟩, ⟨0xf901, 1, 1, -37389⟩, ⟨0xf902, 1, 1, -27192⟩, ⟨0xf903, 1, 1, -27707⟩,
  ⟨0xf904, 1, 1, -35379⟩, ⟨0xf905, 1, 1, -43731⟩, ⟨0xf906, 1, 1, -42273⟩, ⟨0xf907, 1, 1, -22891⟩,
  ⟨0xf908, 1, 1, -22892⟩, ⟨0xf909, 1, 1, -40888⟩, ⟨0xf90a, 1, 1, -26425⟩, ⟨0xf90b, 1, 1, -41860⟩,
  ⟨0xf90c, 1, 1, -40900⟩, ⟨0xf90d, 1, 1, -38679⟩, ⟨0xf90e, 1, 1, -33445⟩, ⟨0xf90f, 1, 1, -31114⟩,
  ⟨0xf910, 1, 1, -29393⟩, ⟨0xf911, 1, 1, -29015⟩, ⟨0xf912, 1, 1, -28698⟩, ⟨0xf913, 1, 1, -26756⟩,
  ⟨0xf914, 1, 1, -36626⟩, ⟨0xf915, 1, 1, -35834⟩, ⟨0xf916, 1, 1, -34877⟩, ⟨0xf917, 1, 1, -34105⟩,
  ⟨0xf918, 1, 1, -29915⟩, ⟨0xf919, 1, 1, -26543⟩, ⟨0xf91a, 1, 1, -24361⟩, ⟨0xf91b, 1, 1, -43673⟩,
  ⟨0xf91c, 1, 1, -42407⟩, ⟨0xf91d, 1, 1, -36377⟩, ⟨0xf91e, 1, 1, -34563⟩, ⟨0xf91f, 1, 1, -29426⟩,
  ⟨0xf920, 1, 1, -23298⟩, ⟨0xf921, 1, 1, -39889⟩, ⟨0xf922, 1, 1, -35127⟩, ⟨0xf923, 1, 1, -29526⟩,
  ⟨0xf924, 1, 1, -28608⟩, ⟨0xf925, 1, 1, -38492⟩, ⟨0xf926, 1, 1, -30542⟩, ⟨0xf927, 1, 1, -28936⟩,
  ⟨0xf928, 1, 1, -39518⟩, ⟨0xf929, 1, 1, -37394⟩, ⟨0xf92a, 1, 1, -35776⟩, ⟨0xf92b, 1, 1, -34351⟩,
  ⟨0xf92c, 1, 1, -26718⟩, ⟨0xf92d, 1, 1, -43431⟩, ⟨0xf92e, 1, 1, -42871⟩, ⟨0xf92f, 1, 1, -42577⟩,
  ⟨0xf930, 1, 1, -37996⟩, ⟨0xf931, 1, 1, -36446⟩, ⟨0xf932, 1, 1, -34594⟩, ⟨0xf933, 1, 1, -33356⟩,
  ⟨0xf934, 1, 1, -31027⟩, ⟨0xf935, 1, 1, -29487⟩, ⟨0xf936, 1, 1, -29402⟩, ⟨0xf937, 1, 1, -27464⟩,
  ⟨0xf938, 1, 1, -25094⟩, ⟨0xf939, 1, 1, -24010⟩, ⟨0xf93a, 1, 1, -23360⟩, ⟨0xf93b, 1, 1, -32943⟩,
  ⟨0xf93c, 1, 1, -32701⟩, ⟨0xf93d, 1, 1, -31645⟩, ⟨0xf93e, 1, 1, -30069⟩, ⟨0xf93f, 1, 1, -26171⟩,
  ⟨0xf940, 1, 1, -23233⟩, ⟨0xf941, 1, 1, -28267⟩, ⟨0xf942, 1, 1, -41059⟩, ⟨0xf943, 1, 1, -39487⟩,
  ⟨0xf944, 1, 1, -31972⟩, ⟨0xf945, 1, 1, -30919⟩, ⟨0xf946, 1, 1, -34532⟩, ⟨0xf947, 1, 1, -32893⟩,
  ⟨0xf948, 1, 1, -27782⟩, ⟨0xf949, 1, 1, -25170⟩, ⟨0xf94a, 1, 1, -41074⟩, ⟨0xf94b, 1, 1, -40169⟩,
  ⟨0xf94c, 1, 1, -36665⟩, ⟨0xf94d, 1, 1, -35699⟩, ⟨0xf94e, 1, 1, -35391⟩, ⟨0xf94f, 1, 1, -31776⟩,
  ⟨0xf950, 1, 1, -31513⟩, ⟨0xf951, 1, 1, -25350⟩, ⟨0xf952, 1, 1, -42624⟩, ⟨0xf953, 1, 1, -30920⟩,
  ⟨0xf954, 1, 1, -42872⟩, ⟨0xf955, 1, 1, -42889⟩, ⟨0xf956, 1, 1, -32570⟩, ⟨0xf957, 1, 1, -31641⟩,
  ⟨0xf958, 1, 1, -30055⟩, ⟨0xf959, 1, 1, -25316⟩, ⟨0xf95a, 1, 1, -28122⟩, ⟨0xf95b, 1, 1, -38540⟩,
  ⟨0xf95c, 1, 1, -36698⟩, ⟨0xf95d, 1, 1, -28255⟩, ⟨0xf95e, 1, 1, -43813⟩, ⟨0xf95f, 1, 1, -40312⟩,
  ⟨0xf960, 1, 1, -39246⟩, ⟨0xf961, 1, 1, -34266⟩, ⟨0xf962, 1, 1, -33778⟩, ⟨0xf963, 1, 1, -42572⟩,
  ⟨0xf964, 1, 1, -32873⟩, ⟨0xf965, 1, 1, -43430⟩, ⟨0xf966, 1, 1, -39357⟩, ⟨0xf967, 1, 1, -43866⟩,
  ⟨0xf968, 1, 1, -35996⟩, ⟨0xf969, 1, 1, -37873⟩, ⟨0xf96a, 1, 1, -31816⟩, ⟨0xf96b, 1, 1, -42408⟩,
  ⟨0xf96c, 1, 1, -41230⟩, ⟨0xf96d, 1, 1, -33388⟩, ⟨0xf96e, 1, 1, -29989⟩, ⟨0xf96f, 1, 1, -28357⟩,
  ⟨0xf970, 1, 1, -36278⟩, ⟨0xf971, 1, 1, -27073⟩, ⟨0xf972, 1, 1, -36074⟩, ⟨0xf973, 1, 1, -38517⟩,
  ⟨0xf974, 1, 1, -30351⟩, ⟨0xf975, 1, 1, -38357⟩, ⟨0xf976, 1, 1, -33809⟩, ⟨0xf977, 1, 1, -43721⟩,
  ⟨0xf978, 1, 1, -43023⟩, ⟨0xf979, 1, 1, -42928⟩, ⟨0xf97a, 1, 1, -37113⟩, ⟨0xf97b, 1, 1, -31892⟩,
  ⟨0xf97c, 1, 1, -30477⟩, ⟨0xf97d, 1, 1, -28331⟩, ⟨0xf97e, 1, 1, -26543⟩, ⟨0xf97f, 1, 1, -42634⟩,
  ⟨0xf980, 1, 1, -42302⟩, ⟨0xf981, 1, 1, -40974⟩, ⟨0xf982, 1, 1, -39574⟩, ⟨0xf983, 1, 1, -37822⟩,
  ⟨0xf984, 1, 1, -35206⟩, ⟨0xf985, 1, 1, -32859⟩, ⟨0xf986, 1, 1, -25561⟩, ⟨0xf987, 1, 1, -24349⟩,
  ⟨0xf988, 1, 1, -23281⟩, ⟨0xf989, 1, 1, -23227⟩, ⟨0xf98a, 1, 1, -42735⟩, ⟨0xf98b, 1, 1, -37573⟩,
  ⟨0xf98c, 1, 1, -36373⟩, ⟨0xf98d, 1, 1, -27179⟩, ⟨0xf98e, 1, 1, -39706⟩, ⟨0xf98f, 1, 1, -38911⟩,
  ⟨0xf990, 1, 1, -38800⟩, ⟨0xf991, 1, 1, -38135⟩, ⟨0xf992, 1, 1, -35439⟩, ⟨0xf993, 1, 1, -34890⟩,
  ⟨0xf994, 1, 1, -34059⟩, ⟨0xf995, 1, 1, -32715⟩, ⟨0xf996, 1, 1, -31650⟩, ⟨0xf997, 1, 1, -31016⟩,
  ⟨0xf998, 1, 1, -27250⟩, ⟨0xf999, 1, 1, -29867⟩, ⟨0xf99a, 1, 1, -26999⟩, ⟨0xf99b, 1, 1, -26193⟩,
  ⟨0xf99c, 1, 1, -42885⟩, ⟨0xf99d, 1, 1, -42746⟩, ⟨0xf99e, 1, 1, -42209⟩, ⟨0xf99f, 1, 1, -35031⟩,
  ⟨0xf9a0, 1, 1, -28894⟩, ⟨0xf9a1, 1, 1, -28407⟩, ⟨0xf9a2, 1, 1, -39641⟩, ⟨0xf9a3, 1, 1, -39342⟩,
  ⟨0xf9a4, 1, 1, -38441⟩, ⟨0xf9a5, 1, 1, -36343⟩, ⟨0xf9a6, 1, 1, -32104⟩, ⟨0xf9a7, 1, 1, -34354⟩,
  ⟨0xf9a8, 1, 1, -43716⟩, ⟨0xf9a9, 1, 1, -41648⟩, ⟨0xf9aa, 1, 1, -40387⟩, ⟨0xf9ab, 1, 1, -39921⟩,
  ⟨0xf9ac, 1, 1, -39312⟩, ⟨0xf9ad, 1, 1, -34299⟩, ⟨0xf9ae, 1, 1, -34117⟩, ⟨0xf9af, 1, 1, -31253⟩,
  ⟨0xf9b0, 1, 1, -31082⟩, ⟨0xf9b1, 1, 1, -26493⟩, ⟨0xf9b2, 1, 1, -25276⟩, ⟨0xf9b3, 1, 1, -25195⟩,
  ⟨0xf9b4, 1, 1, -24988⟩, ⟨0xf9b5, 1, 1, -43562⟩, ⟨0xf9b6, 1, 1, -32776⟩, ⟨0xf9b7, 1, 1, -26627⟩,
  ⟨0xf9b8, 1, 1, -25344⟩, ⟨0xf9b9, 1, 1, -39128⟩, ⟨0xf9ba, 1, 1, -43828⟩, ⟨0xf9bb, 1, 1, -43233⟩,
  ⟨0xf9bc, 1, 1, -40398⟩, ⟨0xf9bd, 1, 1, -40318⟩, ⟨0xf9be, 1, 1, -37925⟩, ⟨0xf9bf, 1, 1, -36797⟩,
  ⟨0xf9c0, 1, 1, -34802⟩, ⟨0xf9c1, 1, 1, -33663⟩, ⟨0xf9c2, 1, 1, -29894⟩, ⟨0xf9c3, 1, 1, -26951⟩,
  ⟨0xf9c4, 1, 1, -23095⟩, ⟨0xf9c5, 1, 1, -37693⟩, ⟨0xf9c6, 1, 1, -25496⟩, ⟨0xf9c7, 1, 1, -42814⟩,
  ⟨0xf9c8, 1, 1, -37453⟩, ⟨0xf9c9, 1, 1, -37334⟩, ⟨0xf9ca, 1, 1, -35977⟩, ⟨0xf9cb, 1, 1, -35631⟩,
  ⟨0xf9cc, 1, 1, -34243⟩, ⟨0xf9cd, 1, 1, -33908⟩, ⟨0xf9ce, 1, 1, -33123⟩, ⟨0xf9cf, 1, 1, -31935⟩,
  ⟨0xf9d0, 1, 1, -24946⟩, ⟨0xf9d1, 1, 1, -43108⟩, ⟨0xf9d2, 1, 1, -38820⟩, ⟨0xf9d3, 1, 1, -25435⟩,
  ⟨0xf9d4, 1, 1, -43433⟩, ⟨0xf9d5, 1, 1, -40124⟩, ⟨0xf9d6, 1, 1, -35820⟩, ⟨0xf9d7, 1, 1, -27309⟩,
  ⟨0xf9d8, 1, 1, -39501⟩, ⟨0xf9d9, 1, 1, -39061⟩, ⟨0xf9da, 1, 1, -37315⟩, ⟨0xf9db, 1, 1, -34388⟩,
  ⟨0xf9dc, 1, 1, -25430⟩, ⟨0xf9dd, 1, 1, -42932⟩, ⟨0xf9de, 1, 1, -42447⟩, ⟨0xf9df, 1, 1, -40314⟩,
  ⟨0xf9e0, 1, 1, -37837⟩, ⟨0xf9e1, 1, 1, -37523⟩, ⟨0xf9e2, 1, 1, -37178⟩, ⟨0xf9e3, 1, 1, -36094⟩,
  ⟨0xf9e4, 1, 1, -34270⟩, ⟨0xf9e5, 1, 1, -33795⟩, ⟨0xf9e6, 1, 1, -31341⟩, ⟨0xf9e7, 1, 1, -28952⟩,
  ⟨0xf9e8, 1, 1, -28935⟩, ⟨0xf9e9, 1, 1, -26653⟩, ⟨0xf9ea, 1, 1, -25352⟩, ⟨0xf9eb, 1, 1, -42668⟩,
  ⟨0xf9ec, 1, 1, -35634⟩, ⟨0xf9ed, 1, 1, -42448⟩, ⟨0xf9ee, 1, 1, -34846⟩, ⟨0xf9ef, 1, 1, -34135⟩,
  ⟨0xf9f0, 1, 1, -29686⟩, ⟨0xf9f1, 1, 1, -25422⟩, ⟨0xf9f2, 1, 1, -23963⟩, ⟨0xf9f3, 1, 1, -23380⟩,
  ⟨0xf9f4, 1, 1, -37469⟩, ⟨0xf9f5, 1, 1, -35882⟩, ⟨0xf9f6, 1, 1, -30734⟩, ⟨0xf9f7, 1, 1, -32556⟩,
  ⟨0xf9f8, 1, 1, -32472⟩, ⟨0xf9f9, 1, 1, -32103⟩, ⟨0xf9fa, 1, 1, -34618⟩, ⟨0xf9fb, 1, 1, -35170⟩,
  ⟨0xf9fc, 1, 1, -28324⟩, ⟨0xf9fd, 1, 1, -43837⟩, ⟨0xf9fe, 1, 1, -30408⟩, ⟨0xf9ff, 1, 1, -42949⟩,
  ⟨0xfa00, 1, 1, -43001⟩, ⟨0xfa01, 1, 1, -39771⟩, ⟨0xfa02, 1, 1, -38703⟩, ⟨0xfa03, 1, 1, -32045⟩,
  ⟨0xfa04, 1, 1, -40575⟩, ⟨0xfa05, 1, 1, -36071⟩, ⟨0xfa06, 1, 1, -37714⟩, ⟨0xfa07, 1, 1, -27340⟩,
  ⟨0xfa08, 1, 1, -29116⟩, ⟨0xfa09, 1, 1, -25532⟩, ⟨0xfa0a, 1, 1, -28799⟩, ⟨0xfa0b, 1, 1, -39736⟩,
  ⟨0xfa0c, 1, 1, -43212⟩, ⟨0xfa0d, 1, 1, -42061⟩, ⟨0xfa10, 1, 1, -41398⟩, ⟨0xfa12, 1, 1, -37790⟩,
  ⟨0xfa15, 1, 1, -43063⟩, ⟨0xfa16, 1, 1, -34540⟩, ⟨0xfa17, 1, 1, -33613⟩, ⟨0xfa18, 1, 1, -32988⟩,
  ⟨0xfa19, 1, 1, -32955⟩, ⟨0xfa1a, 1, 1, -32949⟩, ⟨0xfa1b, 1, 1, -32908⟩, ⟨0xfa1c, 1, 1, -25286⟩,
  ⟨0xfa1d, 1, 1, -32095⟩, ⟨0xfa1e, 1, 1, -31329⟩, ⟨0xfa20, 1, 1, -29710⟩, ⟨0xfa22, 1, 1, -28458⟩,
  ⟨0xfa25, 1, 1, -27117⟩, ⟨0xfa26, 1, 1, -26921⟩, ⟨0xfa2a, 1, 1, -24891⟩, ⟨0xfa2b, 1, 1, -24879⟩,
  ⟨0xfa2c, 1, 1, -24836⟩, ⟨0xfa2d, 1, 1, -23673⟩, ⟨0xfa2e, 1, 1, -26960⟩, ⟨0xfa2f, 1, 1, -25464⟩,
  ⟨0xfa30, 1, 1, -43650⟩, ⟨0xfa31, 1, 1, -43338⟩, ⟨0xfa32, 1, 1, -43237⟩, ⟨0xfa33, 1, 1, -42858⟩,
  ⟨0xfa34, 1, 1, -42832⟩, ⟨0xfa35, 1, 1, -42724⟩, ⟨0xfa36, 1, 1, -42137⟩, ⟨0xfa37, 1, 1, -42033⟩,
  ⟨0xfa38, 1, 1, -41936⟩, ⟨0xfa39, 1, 1, -41465⟩, ⟨0xfa3a, 1, 1, -41362⟩, ⟨0xfa3b, 1, 1, -40407⟩,
  ⟨0xfa3c, 1, 1, -40398⟩, ⟨0xfa3d, 1, 1, -39337⟩, ⟨0xfa3e, 1, 1, -39126⟩, ⟨0xfa3f, 1, 1, -39089⟩,
  ⟨0xfa40, 1, 1, -38990⟩, ⟨0xfa41, 1, 1, -38130⟩, ⟨0xfa42, 1, 1, -37984⟩, ⟨0xfa43, 1, 1, -37810⟩,
  ⟨0xfa44, 1, 1, -37311⟩, ⟨0xfa45, 1, 1, -36046⟩, ⟨0xfa46, 1, 1, -35884⟩, ⟨0xfa47, 1, 1, -35621⟩,
  ⟨0xfa48, 1, 1, -35034⟩, ⟨0xfa49, 1, 1, -34846⟩, ⟨0xfa4a, 1, 1, -34344⟩, ⟨0xfa4b, 1, 1, -33210⟩,
  ⟨0xfa4c, 1, 1, -33038⟩, ⟨0xfa4d, 1, 1, -33028⟩, ⟨0xfa4e, 1, 1, -33030⟩, ⟨0xfa4f, 1, 1, -33023⟩,
  ⟨0xfa50, 1, 1, -33018⟩, ⟨0xfa51, 1, 1, -33012⟩, ⟨0xfa52, 2, 1, -32965⟩, ⟨0xfa54, 1, 1, -32788⟩,
  ⟨0xfa55, 1, 1, -32724⟩, ⟨0xfa56, 1, 1, -32406⟩, ⟨0xfa57, 1, 1, -31843⟩, ⟨0xfa58, 1, 1, -31823⟩,
  ⟨0xfa59, 1, 1, -31768⟩, ⟨0xfa5a, 1, 1, -31464⟩, ⟨0xfa5b, 1, 1, -31318⟩, ⟨0xfa5c, 1, 1, -30831⟩,
  ⟨0xfa5d, 1, 1, -30692⟩, ⟨0xfa5e, 1, 1, -30693⟩, ⟨0xfa5f, 1, 1, -30216⟩, ⟨0xfa60, 1, 1, -29008⟩,
  ⟨0xfa61, 1, 1, -28875⟩, ⟨0xfa62, 1, 1, -28513⟩, ⟨0xfa63, 1, 1, -28458⟩, ⟨0xfa64, 1, 1, -28049⟩,
  ⟨0xfa65, 1, 1, -27997⟩, ⟨0xfa66, 1, 1, -27312⟩, ⟨0xfa67, 1, 1, -27183⟩, ⟨0xfa68, 1, 1, -25477⟩,
  ⟨0xfa69, 1, 1, -25194⟩, ⟨0xfa6a, 1, 1, -25135⟩, ⟨0xfa6b, 1, 1, -39414⟩, ⟨0xfa6c, 1, 1, 84098⟩,
  ⟨0xfa6d, 1, 1, -30805⟩, ⟨0xfa70, 1, 1, -44106⟩, ⟨0xfa71, 1, 1, -43196⟩, ⟨0xfa72, 1, 1, -43274⟩,
  ⟨0xfa73, 1, 1, -43763⟩, ⟨0xfa74, 1, 1, -43311⟩, ⟨0xfa75, 1, 1, -43253⟩, ⟨0xfa76, 1, 1, -42927⟩,
  ⟨0xfa77, 1, 1, -42877⟩, ⟨0xfa78, 1, 1, -42203⟩, ⟨0xfa79, 1, 1, -42276⟩, ⟨0xfa7a, 1, 1, -42209⟩,
  ⟨0xfa7b, 1, 1, -42137⟩, ⟨0xfa7c, 1, 1, -41506⟩, ⟨0xfa7d, 1, 1, -41418⟩, ⟨0xfa7e, 1, 1, -41274⟩,
  ⟨0xfa7f, 1, 1, -41259⟩, ⟨0xfa80, 1, 1, -40990⟩, ⟨0xfa81, 1, 1, -40793⟩, ⟨0xfa82, 1, 1, -39856⟩,
  ⟨0xfa83, 1, 1, -39850⟩, ⟨0xfa84, 1, 1, -39707⟩, ⟨0xfa85, 1, 1, -39640⟩, ⟨0xfa86, 1, 1, -39342⟩,
  ⟨0xfa87, 1, 1, -39225⟩, ⟨0xfa88, 1, 1, -39296⟩, ⟨0xfa89, 1, 1, -39163⟩, ⟨0xfa8a, 1, 1, -39210⟩,
  ⟨0xfa8b, 1, 1, -39065⟩, ⟨0xfa8c, 1, 1, -39000⟩, ⟨0xfa8d, 1, 1, -38601⟩, ⟨0xfa8e, 1, 1, -38514⟩,
  ⟨0xfa8f, 1, 1, -38461⟩, ⟨0xfa90, 1, 1, -38202⟩, ⟨0xfa91, 1, 1, -37917⟩, ⟨0xfa92, 1, 1, -37755⟩,
  ⟨0xfa93, 1, 1, -37752⟩, ⟨0xfa94, 1, 1, -37694⟩, ⟨0xfa95, 1, 1, -36636⟩, ⟨0xfa96, 1, 1, -36572⟩,
  ⟨0xfa97, 1, 1, -36182⟩, ⟨0xfa98, 1, 1, -35773⟩, ⟨0xfa99, 1, 1, -35790⟩, ⟨0xfa9a, 1, 1, -35704⟩,
  ⟨0xfa9b, 1, 1, -35453⟩, ⟨0xfa9c, 1, 1, -35118⟩, ⟨0xfa9d, 1, 1, -33526⟩, ⟨0xfa9e, 1, 1, -34921⟩,
  ⟨0xfa9f, 1, 1, -34800⟩, ⟨0xfaa0, 1, 1, -34678⟩, ⟨0xfaa1, 1, 1, -34352⟩, ⟨0xfaa2, 1, 1, -34204⟩,
  ⟨0xfaa3, 1, 1, -34152⟩, ⟨0xfaa4, 1, 1, -33927⟩, ⟨0xfaa5, 1, 1, -33926⟩, ⟨0xfaa6, 1, 1, -33756⟩,
  ⟨0xfaa7, 1, 1, -33740⟩, ⟨0xfaa8, 1, 1, -33716⟩, ⟨0xfaa9, 1, 1, -33631⟩, ⟨0xfaaa, 1, 1, -33642⟩,
  ⟨0xfaab, 1, 1, -33247⟩, ⟨0xfaac, 1, 1, -32763⟩, ⟨0xfaad, 1, 1, -32493⟩, ⟨0xfaae, 1, 1, -32307⟩,
  ⟨0xfaaf, 1, 1, -32084⟩, ⟨0xfab0, 1, 1, -31932⟩, ⟨0xfab1, 1, 1, -31603⟩, ⟨0xfab2, 1, 1, -31405⟩,
  ⟨0xfab3, 1, 1, -30561⟩, ⟨0xfab4, 1, 1, -30405⟩, ⟨0xfab5, 1, 1, -29500⟩, ⟨0xfab6, 1, 1, -29045⟩,
  ⟨0xfab7, 1, 1, -28977⟩, ⟨0xfab8, 1, 1, -28962⟩, ⟨0xfab9, 1, 1, -28666⟩, ⟨0xfaba, 1, 1, -28610⟩,
  ⟨0xfabb, 1, 1, -28656⟩, ⟨0xfabc, 1, 1, -28603⟩, ⟨0xfabd, 1, 1, -28607⟩, ⟨0xfabe, 1, 1, -28625⟩,
  ⟨0xfabf, 1, 1, -28550⟩, ⟨0xfac0, 1, 1, -28470⟩, ⟨0xfac1, 1, 1, -28089⟩, ⟨0xfac2, 1, 1, -27530⟩,
  ⟨0xfac3, 1, 1, -27217⟩, ⟨0xfac4, 1, 1, -26923⟩, ⟨0xfac5, 1, 1, -26703⟩, ⟨0xfac6, 1, 1, -25674⟩,
  ⟨0xfac7, 1, 1, -25572⟩, ⟨0xfac8, 1, 1, -25458⟩, ⟨0xfac9, 1, 1, -25326⟩, ⟨0xfaca, 1, 1, -25291⟩,
  ⟨0xfacb, 1, 1, -25280⟩, ⟨0xfacc, 1, 1, -25233⟩, ⟨0xfacd, 1, 1, -24507⟩, ⟨0xface, 1, 1, -23346⟩,
  ⟨0xfacf, 1, 1, 77179⟩, ⟨0xfad0, 1, 1, 77172⟩, ⟨0xfad1, 1, 1, 80132⟩, ⟨0xfad2, 1, 1, -48949⟩,
  ⟨0xfad3, 1, 1, -47803⟩, ⟨0xfad4, 1, 1, -47771⟩, ⟨0xfad5, 1, 1, 87924⟩, ⟨0xfad6, 1, 1, 90618⟩,
  ⟨0xfad7, 1, 1, 99324⟩, ⟨0xfad8, 1, 1, -23445⟩, ⟨0xfad9, 1, 1, -23371⟩]

def formShifts : List Shift := [
  ⟨0xfb20, 1, 1, -62782⟩, ⟨0xfb21, 1, 1, -62801⟩, ⟨0xfb22, 2, 1, -62799⟩, ⟨0xfb24, 3, 1, -62793⟩,
  ⟨0xfb27, 1, 1, -62783⟩, ⟨0xfb28, 1, 1, -62782⟩, ⟨0xfb29, 1, 1, -64254⟩, ⟨0xfb50, 1, 1, -62687⟩,
  ⟨0xfb51, 1, 1, -62688⟩, ⟨0xfb52, 1, 1, -62679⟩, ⟨0xfb53, 1, 1, -62680⟩, ⟨0xfb54, 1, 1, -62681⟩,
  ⟨0xfb55, 1, 1, -62682⟩, ⟨0xfb56, 1, 1, -62680⟩, ⟨0xfb57, 1, 1, -62681⟩, ⟨0xfb58, 2, 2, -62682⟩,
  ⟨0xfb59, 2, 2, -62683⟩, ⟨0xfb5c, 1, 1, -62684⟩, ⟨0xfb5d, 1, 1, -62685⟩, ⟨0xfb5e, 1, 1, -62692⟩,
  ⟨0xfb5f, 1, 1, -62693⟩, ⟨0xfb60, 1, 1, -62694⟩, ⟨0xfb61, 1, 1, -62695⟩, ⟨0xfb62, 1, 1, -62691⟩,
  ⟨0xfb63, 1, 1, -62692⟩, ⟨0xfb64, 1, 1, -62693⟩, ⟨0xfb65, 1, 1, -62694⟩, ⟨0xfb66, 1, 1, -62701⟩,
  ⟨0xfb67, 1, 1, -62702⟩, ⟨0xfb68, 1, 1, -62703⟩, ⟨0xfb69, 1, 1, -62704⟩, ⟨0xfb6a, 1, 1, -62662⟩,
  ⟨0xfb6b, 1, 1, -62663⟩, ⟨0xfb6c, 2, 2, -62664⟩, ⟨0xfb6d, 2, 2, -62665⟩, ⟨0xfb70, 1, 1, -62666⟩,
  ⟨0xfb71, 1, 1, -62667⟩, ⟨0xfb72, 1, 1, -62702⟩, ⟨0xfb73, 1, 1, -62703⟩, ⟨0xfb74, 1, 1, -62704⟩,
  ⟨0xfb75, 1, 1, -62705⟩, ⟨0xfb76, 1, 1, -62707⟩, ⟨0xfb77, 1, 1, -62708⟩, ⟨0xfb78, 1, 1, -62709⟩,
  ⟨0xfb79, 1, 1, -62710⟩, ⟨0xfb7a, 1, 1, -62708⟩, ⟨0xfb7b, 1, 1, -62709⟩, ⟨0xfb7c, 1, 1, -62710⟩,
  ⟨0xfb7d, 2, 1, -62711⟩, ⟨0xfb7f, 1, 1, -62712⟩, ⟨0xfb80, 1, 1, -62713⟩, ⟨0xfb81, 1, 1, -62714⟩,
  ⟨0xfb82, 1, 1, -62709⟩, ⟨0xfb83, 1, 1, -62710⟩, ⟨0xfb84, 2, 2, -62712⟩, ⟨0xfb85, 2, 2, -62713⟩,
  ⟨0xfb88, 1, 1, -62720⟩, ⟨0xfb89, 1, 1, -62721⟩, ⟨0xfb8a, 1, 1, -62706⟩, ⟨0xfb8b, 1, 1, -62707⟩,
  ⟨0xfb8c, 1, 1, -62715⟩, ⟨0xfb8d, 1, 1, -62716⟩, ⟨0xfb8e, 1, 1, -62693⟩, ⟨0xfb8f, 1, 1, -62694⟩,
  ⟨0xfb90, 1, 1, -62695⟩, ⟨0xfb91, 1, 1, -62696⟩, ⟨0xfb92, 1, 1, -62691⟩, ⟨0xfb93, 1, 1, -62692⟩,
  ⟨0xfb94, 1, 1, -62693⟩, ⟨0xfb95, 1, 1, -62694⟩, ⟨0xfb96, 1, 1, -62691⟩, ⟨0xfb97, 1, 1, -62692⟩,
  ⟨0xfb98, 1, 1, -62693⟩, ⟨0xfb99, 1, 1, -62694⟩, ⟨0xfb9a, 1, 1, -62697⟩, ⟨0xfb9b, 1, 1, -62698⟩,
  ⟨0xfb9c, 1, 1, -62699⟩, ⟨0xfb9d, 1, 1, -62700⟩, ⟨0xfb9e, 1, 1, -62692⟩, ⟨0xfb9f, 2, 1, -62693⟩,
  ⟨0xfba1, 1, 1, -62694⟩, ⟨0xfba2, 1, 1, -62695⟩, ⟨0xfba3, 1, 1, -62696⟩, ⟨0xfba4, 1, 1, -62692⟩,
  ⟨0xfba5, 2, 1, -62693⟩, ⟨0xfba7, 1, 1, -62694⟩, ⟨0xfba8, 1, 1, -62695⟩, ⟨0xfba9, 1, 1, -62696⟩,
  ⟨0xfbaa, 1, 1, -62700⟩, ⟨0xfbab, 1, 1, -62701⟩, ⟨0xfbac, 1, 1, -62702⟩, ⟨0xfbad, 1, 1, -62703⟩,
  ⟨0xfbae, 1, 1, -62684⟩, ⟨0xfbaf, 2, 1, -62685⟩, ⟨0xfbb1, 1, 1, -62686⟩, ⟨0xfbd3, 1, 1, -62758⟩,
  ⟨0xfbd4, 1, 1, -62759⟩, ⟨0xfbd5, 1, 1, -62760⟩, ⟨0xfbd6, 1, 1, -62761⟩, ⟨0xfbd7, 1, 1, -62736⟩,
  ⟨0xfbd8, 1, 1, -62737⟩, ⟨0xfbd9, 2, 2, -62739⟩, ⟨0xfbda, 2, 2, -62740⟩, ⟨0xfbde, 1, 1, -62739⟩,
  ⟨0xfbdf, 1, 1, -62740⟩, ⟨0xfbe0, 1, 1, -62747⟩, ⟨0xfbe1, 1, 1, -62748⟩, ⟨0xfbe2, 1, 1, -62745⟩,
  ⟨0xfbe3, 1, 1, -62746⟩, ⟨0xfbe4, 1, 1, -62740⟩, ⟨0xfbe5, 1, 1, -62741⟩, ⟨0xfbe6, 1, 1, -62742⟩,
  ⟨0xfbe7, 1, 1, -62743⟩, ⟨0xfbe8, 1, 1, -62879⟩, ⟨0xfbe9, 1, 1, -62880⟩, ⟨0xfbfc, 1, 1, -62768⟩,
  ⟨0xfbfd, 1, 1, -62769⟩, ⟨0xfbfe, 1, 1, -62770⟩, ⟨0xfbff, 1, 1, -62771⟩, ⟨0xfe10, 1, 1, -64996⟩,
  ⟨0xfe11, 1, 1, -52752⟩, ⟨0xfe13, 2, 1, -64985⟩, ⟨0xfe15, 1, 1, -65012⟩, ⟨0xfe16, 1, 1, -64983⟩,
  ⟨0xfe17, 2, 1, -52737⟩, ⟨0xfe31, 1, 1, -56861⟩, ⟨0xfe32, 1, 1, -56863⟩, ⟨0xfe33, 1, 1, -64980⟩,
  ⟨0xfe34, 1, 1, -64981⟩, ⟨0xfe35, 2, 1, -65037⟩, ⟨0xfe37, 1, 1, -64956⟩, ⟨0xfe38, 1, 1, -64955⟩,
  ⟨0xfe39, 2, 1, -52773⟩, ⟨0xfe3b, 2, 1, -52779⟩, ⟨0xfe3d, 2, 1, -52787⟩, ⟨0xfe3f, 2, 1, -52791⟩,
  ⟨0xfe41, 4, 1, -52789⟩, ⟨0xfe47, 1, 1, -65004⟩, ⟨0xfe48, 1, 1, -65003⟩, ⟨0xfe4d, 1, 1, -65006⟩,
  ⟨0xfe4e, 1, 1, -65007⟩, ⟨0xfe4f, 1, 1, -65008⟩, ⟨0xfe50, 1, 1, -65060⟩, ⟨0xfe51, 1, 1, -52816⟩,
  ⟨0xfe54, 1, 1, -65049⟩, ⟨0xfe55, 1, 1, -65051⟩, ⟨0xfe56, 1, 1, -65047⟩, ⟨0xfe57, 1, 1, -65078⟩,
  ⟨0xfe58, 1, 1, -56900⟩, ⟨0xfe59, 2, 1, -65073⟩, ⟨0xfe5b, 1, 1, -64992⟩, ⟨0xfe5c, 1, 1, -64991⟩,
  ⟨0xfe5d, 2, 1, -52809⟩, ⟨0xfe5f, 1, 1, -65084⟩, ⟨0xfe60, 1, 1, -65082⟩, ⟨0xfe61, 2, 1, -65079⟩,
  ⟨0xfe63, 1, 1, -65078⟩, ⟨0xfe64, 1, 1, -65064⟩, ⟨0xfe65, 1, 1, -65063⟩, ⟨0xfe66, 1, 1, -65065⟩,
  ⟨0xfe68, 1, 1, -65036⟩, ⟨0xfe69, 2, 1, -65093⟩, ⟨0xfe6b, 1, 1, -65067⟩, ⟨0xfe80, 2, 1, -63583⟩,
  ⟨0xfe82, 2, 1, -63584⟩, ⟨0xfe84, 2, 1, -63585⟩, ⟨0xfe86, 2, 1, -63586⟩, ⟨0xfe88, 2, 1, -63587⟩,
  ⟨0xfe8a, 1, 1, -63588⟩, ⟨0xfe8b, 1, 1, -63589⟩, ⟨0xfe8c, 2, 1, -63590⟩, ⟨0xfe8e, 2, 1, -63591⟩,
  ⟨0xfe90, 1, 1, -63592⟩, ⟨0xfe91, 1, 1, -63593⟩, ⟨0xfe92, 2, 1, -63594⟩, ⟨0xfe94, 2, 1, -63595⟩,
  ⟨0xfe96, 1, 1, -63596⟩, ⟨0xfe97, 1, 1, -63597⟩, ⟨0xfe98, 2, 1, -63598⟩, ⟨0xfe9a, 1, 1, -63599⟩,
  ⟨0xfe9b, 1, 1, -63600⟩, ⟨0xfe9c, 2, 1, -63601⟩, ⟨0xfe9e, 1, 1, -63602⟩, ⟨0xfe9f, 1, 1, -63603⟩,
  ⟨0xfea0, 2, 1, -63604⟩, ⟨0xfea2, 1, 1, -63605⟩, ⟨0xfea3, 1, 1, -63606⟩, ⟨0xfea4, 2, 1, -63607⟩,
  ⟨0xfea6, 1, 1, -63608⟩, ⟨0xfea7, 1, 1, -63609⟩, ⟨0xfea8, 2, 1, -63610⟩, ⟨0xfeaa, 2, 1, -63611⟩,
  ⟨0xfeac, 2, 1, -63612⟩, ⟨0xfeae, 2, 1, -63613⟩, ⟨0xfeb0, 2, 1, -63614⟩, ⟨0xfeb2, 1, 1, -63615⟩,
  ⟨0xfeb3, 1, 1, -63616⟩, ⟨0xfeb4, 2, 1, -63617⟩, ⟨0xfeb6, 1, 1, -63618⟩, ⟨0xfeb7, 1, 1, -63619⟩,
  ⟨0xfeb8, 2, 1, -63620⟩, ⟨0xfeba, 1, 1, -63621⟩, ⟨0xfebb, 1, 1, -63622⟩, ⟨0xfebc, 2, 1, -63623⟩,
  ⟨0xfebe, 1, 1, -63624⟩, ⟨0xfebf, 1, 1, -63625⟩, ⟨0xfec0, 2, 1, -63626⟩, ⟨0xfec2, 1, 1, -63627⟩,
  ⟨0xfec3, 1, 1, -63628⟩, ⟨0xfec4, 2, 1, -63629⟩, ⟨0xfec6, 1, 1, -63630⟩, ⟨0xfec7, 1, 1, -63631⟩,
  ⟨0xfec8, 2, 1, -63632⟩, ⟨0xfeca, 1, 1, -63633⟩, ⟨0xfecb, 1, 1, -63634⟩, ⟨0xfecc, 2, 1, -63635⟩,
  ⟨0xfece, 1, 1, -63636⟩, ⟨0xfecf, 1, 1, -63637⟩, ⟨0xfed0, 1, 1, -63638⟩, ⟨0xfed1, 1, 1, -63632⟩,
  ⟨0xfed2, 1, 1, -63633⟩, ⟨0xfed3, 1, 1, -63634⟩, ⟨0xfed4, 2, 1, -63635⟩, ⟨0xfed6, 1, 1, -63636⟩,
  ⟨0xfed7, 1, 1, -63637⟩, ⟨0xfed8, 2, 1, -63638⟩, ⟨0xfeda, 1, 1, -63639⟩, ⟨0xfedb, 1, 1, -63640⟩,
  ⟨0xfedc, 2, 1, -63641⟩, ⟨0xfede, 1, 1, -63642⟩, ⟨0xfedf, 1, 1, -63643⟩, ⟨0xfee0, 2, 1, -63644⟩,
  ⟨0xfee2, 1, 1, -63645⟩, ⟨0xfee3, 1, 1, -63646⟩, ⟨0xfee4, 2, 1, -63647⟩, ⟨0xfee6, 1, 1, -63648⟩,
  ⟨0xfee7, 1, 1, -63649⟩, ⟨0xfee8, 2, 1, -63650⟩, ⟨0xfeea, 1, 1, -63651⟩, ⟨0xfeeb, 1, 1, -63652⟩,
  ⟨0xfeec, 2, 1, -63653⟩, ⟨0xfeee, 2, 1, -63654⟩, ⟨0xfef0, 2, 1, -63655⟩, ⟨0xfef2, 1, 1, -63656⟩,
  ⟨0xfef3, 1, 1, -63657⟩, ⟨0xfef4, 1, 1, -63658⟩, ⟨0xff01, 32, 1, -65248⟩, ⟨0xff21, 26, 1, -65216⟩,
  ⟨0xff3b, 36, 1, -65248⟩, ⟨0xff5f, 2, 1, -54746⟩, ⟨0xff61, 1, 1, -65331⟩, ⟨0xff62, 2, 1, -53078⟩,
  ⟨0xff64, 1, 1, -53091⟩, ⟨0xff65, 1, 1, -52842⟩, ⟨0xff66, 1, 1, -52852⟩, ⟨0xff67, 1, 1, -52934⟩,
  ⟨0xff68, 1, 1, -52933⟩, ⟨0xff69, 1, 1, -52932⟩, ⟨0xff6a, 1, 1, -52931⟩, ⟨0xff6b, 1, 1, -52930⟩,
  ⟨0xff6c, 1, 1, -52873⟩, ⟨0xff6d, 1, 1, -52872⟩, ⟨0xff6e, 1, 1, -52871⟩, ⟨0xff6f, 1, 1, -52908⟩,
  ⟨0xff70, 1, 1, -52852⟩, ⟨0xff71, 1, 1, -52943⟩, ⟨0xff72, 1, 1, -52942⟩, ⟨0xff73, 1, 1, -52941⟩,
  ⟨0xff74, 1, 1, -52940⟩, ⟨0xff75, 2, 1, -52939⟩, ⟨0xff77, 1, 1, -52938⟩, ⟨0xff78, 1, 1, -52937⟩,
  ⟨0xff79, 1, 1, -52936⟩, ⟨0xff7a, 1, 1, -52935⟩, ⟨0xff7b, 1, 1, -52934⟩, ⟨0xff7c, 1, 1, -52933⟩,
  ⟨0xff7d, 1, 1, -52932⟩, ⟨0xff7e, 1, 1, -52931⟩, ⟨0xff7f, 1, 1, -52930⟩, ⟨0xff80, 1, 1, -52929⟩,
  ⟨0xff81, 1, 1, -52928⟩, ⟨0xff82, 1, 1, -52926⟩, ⟨0xff83, 1, 1, -52925⟩, ⟨0xff84, 1, 1, -52924⟩,
  ⟨0xff85, 6, 1, -52923⟩, ⟨0xff8b, 1, 1, -52921⟩, ⟨0xff8c, 1, 1, -52919⟩, ⟨0xff8d, 1, 1, -52917⟩,
  ⟨0xff8e, 1, 1, -52915⟩, ⟨0xff8f, 5, 1, -52913⟩, ⟨0xff94, 1, 1, -52912⟩, ⟨0xff95, 1, 1, -52911⟩,
  ⟨0xff96, 6, 1, -52910⟩, ⟨0xff9c, 1, 1, -52909⟩, ⟨0xff9d, 1, 1, -52906⟩, ⟨0xff9e, 2, 1, -52997⟩,
  ⟨0xffa1, 2, 1, -61089⟩, ⟨0xffa3, 2, 2, -60921⟩, ⟨0xffa4, 1, 1, -61090⟩, ⟨0xffa6, 1, 1, -60921⟩,
  ⟨0xffa7, 3, 1, -61092⟩, ⟨0xffaa, 6, 1, -60922⟩, ⟨0xffb0, 1, 1, -61078⟩, ⟨0xffb1, 3, 1, -61099⟩,
  ⟨0xffb4, 1, 1, -61075⟩, ⟨0xffb5, 10, 1, -61100⟩, ⟨0xffc2, 6, 1, -61025⟩, ⟨0xffca, 6, 1, -61027⟩,
  ⟨0xffd2, 6, 1, -61029⟩, ⟨0xffda, 3, 1, -61031⟩, ⟨0xffe0, 2, 1, -65342⟩, ⟨0xffe2, 1, 1, -65334⟩,
  ⟨0xffe4, 1, 1, -65342⟩, ⟨0xffe5, 1, 1, -65344⟩, ⟨0xffe6, 1, 1, -57149⟩, ⟨0xffe8, 1, 1, -56038⟩,
  ⟨0xffe9, 4, 1, -56921⟩, ⟨0xffed, 1, 1, -55885⟩, ⟨0xffee, 1, 1, -55843⟩]

def mathematicalShifts : List Shift := [
  ⟨0x10400, 40, 1, 40⟩, ⟨0x104b0, 36, 1, 40⟩, ⟨0x10570, 19, 2, 39⟩, ⟨0x10571, 5, 2, 39⟩,
  ⟨0x1057d, 7, 2, 39⟩, ⟨0x1058d, 3, 2, 39⟩, ⟨0x10595, 1, 1, 39⟩, ⟨0x10781, 2, 1, -66737⟩,
  ⟨0x10783, 1, 1, -67229⟩, ⟨0x10784, 1, 1, -66795⟩, ⟨0x10785, 1, 1, -66866⟩,
  ⟨0x10787, 2, 2, -66788⟩, ⟨0x10788, 1, 1, -23586⟩, ⟨0x1078a, 1, 1, -66790⟩,
  ⟨0x1078b, 2, 1, -66869⟩, ⟨0x1078d, 1, 1, -59900⟩, ⟨0x1078e, 1, 1, -66870⟩,
  ⟨0x1078f, 1, 1, -66865⟩, ⟨0x10790, 1, 1, -66791⟩, ⟨0x10791, 1, 1, -66861⟩,
  ⟨0x10792, 1, 1, -66864⟩, ⟨0x10793, 1, 1, -66867⟩, ⟨0x10794, 1, 1, -66809⟩,
  ⟨0x10795, 1, 1, -67182⟩, ⟨0x10796, 1, 1, -66810⟩, ⟨0x10797, 1, 1, -66864⟩,
  ⟨0x10798, 1, 1, -66836⟩, ⟨0x10799, 2, 1, -66799⟩, ⟨0x1079b, 1, 1, -66863⟩, ⟨0x1079c, 1, 1, 55144⟩,
  ⟨0x1079d, 1, 1, -24591⟩, ⟨0x1079e, 1, 1, -66864⟩, ⟨0x1079f, 1, 1, 55142⟩, ⟨0x107a0, 1, 1, -66834⟩,
  ⟨0x107a1, 1, 1, 55141⟩, ⟨0x107a2, 1, 1, -67242⟩, ⟨0x107a3, 2, 1, -66861⟩, ⟨0x107a5, 1, 1, -67380⟩,
  ⟨0x107a6, 1, 1, -66860⟩, ⟨0x107a7, 1, 1, 55137⟩, ⟨0x107a8, 2, 1, -66859⟩, ⟨0x107aa, 1, 1, -66858⟩,
  ⟨0x107ab, 1, 1, -66819⟩, ⟨0x107ac, 1, 1, -66822⟩, ⟨0x107ad, 1, 1, -23622⟩,
  ⟨0x107ae, 1, 1, -66823⟩, ⟨0x107af, 1, 1, -66855⟩, ⟨0x107b0, 1, 1, -56127⟩,
  ⟨0x107b2, 1, 1, -66851⟩, ⟨0x107b3, 2, 1, -66834⟩, ⟨0x107b5, 1, 1, -66845⟩,
  ⟨0x107b6, 3, 1, -67062⟩, ⟨0x107b9, 1, 1, 55121⟩, ⟨0x107ba, 1, 1, 55140⟩, ⟨0x10c80, 51, 1, 64⟩,
  ⟨0x10d50, 22, 1, 32⟩, ⟨0x118a0, 32, 1, 32⟩, ⟨0x16e40, 32, 1, 32⟩, ⟨0x16ea0, 25, 1, 27⟩,
  ⟨0x1ccd6, 26, 1, -117877⟩, ⟨0x1ccf0, 10, 1, -117952⟩, ⟨0x1d400, 26, 1, -119711⟩,
  ⟨0x1d41a, 26, 1, -119737⟩, ⟨0x1d434, 26, 1, -119763⟩, ⟨0x1d44e, 13, 2, -119789⟩,
  ⟨0x1d44f, 3, 2, -119789⟩, ⟨0x1d457, 9, 2, -119789⟩, ⟨0x1d468, 26, 1, -119815⟩,
  ⟨0x1d482, 26, 1, -119841⟩, ⟨0x1d49c, 2, 2, -119867⟩, ⟨0x1d49f, 1, 1, -119867⟩,
  ⟨0x1d4a2, 1, 1, -119867⟩, ⟨0x1d4a5, 2, 1, -119867⟩, ⟨0x1d4a9, 4, 1, -119867⟩,
  ⟨0x1d4ae, 8, 1, -119867⟩, ⟨0x1d4b6, 4, 1, -119893⟩, ⟨0x1d4bb, 11, 2, -119893⟩,
  ⟨0x1d4be, 3, 2, -119893⟩, ⟨0x1d4c6, 5, 2, -119893⟩, ⟨0x1d4d0, 26, 1, -119919⟩,
  ⟨0x1d4ea, 26, 1, -119945⟩, ⟨0x1d504, 2, 1, -119971⟩, ⟨0x1d507, 4, 1, -119971⟩,
  ⟨0x1d50d, 8, 1, -119971⟩, ⟨0x1d516, 7, 1, -119971⟩, ⟨0x1d51e, 26, 1, -119997⟩,
  ⟨0x1d538, 2, 1, -120023⟩, ⟨0x1d53b, 4, 1, -120023⟩, ⟨0x1d540, 5, 1, -120023⟩,
  ⟨0x1d546, 1, 1, -120023⟩, ⟨0x1d54a, 7, 1, -120023⟩, ⟨0x1d552, 26, 1, -120049⟩,
  ⟨0x1d56c, 26, 1, -120075⟩, ⟨0x1d586, 26, 1, -120101⟩, ⟨0x1d5a0, 26, 1, -120127⟩,
  ⟨0x1d5ba, 26, 1, -120153⟩, ⟨0x1d5d4, 26, 1, -120179⟩, ⟨0x1d5ee, 26, 1, -120205⟩,
  ⟨0x1d608, 26, 1, -120231⟩, ⟨0x1d622, 26, 1, -120257⟩, ⟨0x1d63c, 26, 1, -120283⟩,
  ⟨0x1d656, 26, 1, -120309⟩, ⟨0x1d670, 26, 1, -120335⟩, ⟨0x1d68a, 26, 1, -120361⟩,
  ⟨0x1d6a4, 1, 1, -120179⟩, ⟨0x1d6a5, 1, 1, -119918⟩, ⟨0x1d6a8, 17, 1, -119543⟩,
  ⟨0x1d6b9, 1, 1, -119553⟩, ⟨0x1d6ba, 7, 1, -119543⟩, ⟨0x1d6c1, 1, 1, -111802⟩,
  ⟨0x1d6c2, 17, 1, -119569⟩, ⟨0x1d6d3, 1, 1, -119568⟩, ⟨0x1d6d4, 7, 1, -119569⟩,
  ⟨0x1d6db, 1, 1, -111833⟩, ⟨0x1d6dc, 1, 1, -119591⟩, ⟨0x1d6dd, 1, 1, -119589⟩,
  ⟨0x1d6de, 1, 1, -119588⟩, ⟨0x1d6df, 1, 1, -119577⟩, ⟨0x1d6e0, 1, 1, -119583⟩,
  ⟨0x1d6e1, 1, 1, -119585⟩, ⟨0x1d6e2, 17, 1, -119601⟩, ⟨0x1d6f3, 1, 1, -119611⟩,
  ⟨0x1d6f4, 7, 1, -119601⟩, ⟨0x1d6fb, 1, 1, -111860⟩, ⟨0x1d6fc, 17, 1, -119627⟩,
  ⟨0x1d70d, 1, 1, -119626⟩, ⟨0x1d70e, 7, 1, -119627⟩, ⟨0x1d715, 1, 1, -111891⟩,
  ⟨0x1d716, 1, 1, -119649⟩, ⟨0x1d717, 1, 1, -119647⟩, ⟨0x1d718, 1, 1, -119646⟩,
  ⟨0x1d719, 1, 1, -119635⟩, ⟨0x1d71a, 1, 1, -119641⟩, ⟨0x1d71b, 1, 1, -119643⟩,
  ⟨0x1d71c, 17, 1, -119659⟩, ⟨0x1d72d, 1, 1, -119669⟩, ⟨0x1d72e, 7, 1, -119659⟩,
  ⟨0x1d735, 1, 1, -111918⟩, ⟨0x1d736, 17, 1, -119685⟩, ⟨0x1d747, 1, 1, -119684⟩,
  ⟨0x1d748, 7, 1, -119685⟩, ⟨0x1d74f, 1, 1, -111949⟩, ⟨0x1d750, 1, 1, -119707⟩,
  ⟨0x1d751, 1, 1, -119705⟩, ⟨0x1d752, 1, 1, -119704⟩, ⟨0x1d753, 1, 1, -119693⟩,
  ⟨0x1d754, 1, 1, -119699⟩, ⟨0x1d755, 1, 1, -119701⟩, ⟨0x1d756, 17, 1, -119717⟩,
  ⟨0x1d767, 1, 1, -119727⟩, ⟨0x1d768, 7, 1, -119717⟩, ⟨0x1d76f, 1, 1, -111976⟩,
  ⟨0x1d770, 17, 1, -119743⟩, ⟨0x1d781, 1, 1, -119742⟩, ⟨0x1d782, 7, 1, -119743⟩,
  ⟨0x1d789, 1, 1, -112007⟩, ⟨0x1d78a, 1, 1, -119765⟩, ⟨0x1d78b, 1, 1, -119763⟩,
  ⟨0x1d78c, 1, 1, -119762⟩, ⟨0x1d78d, 1, 1, -119751⟩, ⟨0x1d78e, 1, 1, -119757⟩,
  ⟨0x1d78f, 1, 1, -119759⟩, ⟨0x1d790, 17, 1, -119775⟩, ⟨0x1d7a1, 1, 1, -119785⟩,
  ⟨0x1d7a2, 7, 1, -119775⟩, ⟨0x1d7a9, 1, 1, -112034⟩, ⟨0x1d7aa, 17, 1, -119801⟩,
  ⟨0x1d7bb, 1, 1, -119800⟩, ⟨0x1d7bc, 7, 1, -119801⟩, ⟨0x1d7c3, 1, 1, -112065⟩,
  ⟨0x1d7c4, 1, 1, -119823⟩, ⟨0x1d7c5, 1, 1, -119821⟩, ⟨0x1d7c6, 1, 1, -119820⟩,
  ⟨0x1d7c7, 1, 1, -119809⟩, ⟨0x1d7c8, 1, 1, -119815⟩, ⟨0x1d7c9, 1, 1, -119817⟩,
  ⟨0x1d7ca, 1, 1, -119789⟩, ⟨0x1d7cb, 1, 1, -119790⟩, ⟨0x1d7ce, 10, 1, -120734⟩,
  ⟨0x1d7d8, 10, 1, -120744⟩, ⟨0x1d7e2, 10, 1, -120754⟩, ⟨0x1d7ec, 10, 1, -120764⟩,
  ⟨0x1d7f6, 10, 1, -120774⟩, ⟨0x1e030, 9, 1, -121856⟩, ⟨0x1e039, 3, 1, -121855⟩,
  ⟨0x1e03c, 11, 1, -121854⟩, ⟨0x1e047, 1, 1, -121852⟩, ⟨0x1e048, 2, 1, -121851⟩,
  ⟨0x1e04a, 1, 1, -80321⟩, ⟨0x1e04b, 1, 1, -121714⟩, ⟨0x1e04c, 1, 1, -121846⟩,
  ⟨0x1e04d, 1, 1, -121845⟩, ⟨0x1e04e, 1, 1, -121701⟩, ⟨0x1e04f, 1, 1, -121760⟩,
  ⟨0x1e050, 1, 1, -121729⟩, ⟨0x1e051, 9, 1, -121889⟩, ⟨0x1e05a, 2, 1, -121888⟩,
  ⟨0x1e05c, 2, 1, -121886⟩, ⟨0x1e05e, 1, 1, -121885⟩, ⟨0x1e05f, 6, 1, -121884⟩,
  ⟨0x1e065, 2, 1, -121883⟩, ⟨0x1e067, 1, 1, -121814⟩, ⟨0x1e068, 1, 1, -121874⟩,
  ⟨0x1e069, 1, 1, -121876⟩, ⟨0x1e06a, 1, 1, -121867⟩, ⟨0x1e06b, 1, 1, -121792⟩,
  ⟨0x1e06c, 1, 1, -80411⟩, ⟨0x1e06d, 1, 1, -121788⟩, ⟨0x1e900, 34, 1, 34⟩, ⟨0x1ee00, 2, 1, -124889⟩,
  ⟨0x1ee02, 1, 1, -124886⟩, ⟨0x1ee03, 1, 1, -124884⟩, ⟨0x1ee05, 1, 1, -124861⟩,
  ⟨0x1ee06, 1, 1, -124884⟩, ⟨0x1ee07, 1, 1, -124890⟩, ⟨0x1ee08, 1, 1, -124881⟩,
  ⟨0x1ee09, 1, 1, -124863⟩, ⟨0x1ee0a, 4, 1, -124871⟩, ⟨0x1ee0e, 1, 1, -124891⟩,
  ⟨0x1ee0f, 1, 1, -124886⟩, ⟨0x1ee10, 1, 1, -124879⟩, ⟨0x1ee11, 1, 1, -124892⟩,
  ⟨0x1ee12, 1, 1, -124880⟩, ⟨0x1ee13, 1, 1, -124898⟩, ⟨0x1ee14, 1, 1, -124896⟩,
  ⟨0x1ee15, 2, 1, -124907⟩, ⟨0x1ee17, 1, 1, -124905⟩, ⟨0x1ee18, 1, 1, -124904⟩,
  ⟨0x1ee19, 1, 1, -124899⟩, ⟨0x1ee1a, 1, 1, -124898⟩, ⟨0x1ee1b, 1, 1, -124897⟩,
  ⟨0x1ee1c, 1, 1, -124846⟩, ⟨0x1ee1d, 1, 1, -124771⟩, ⟨0x1ee1e, 1, 1, -124797⟩,
  ⟨0x1ee1f, 1, 1, -124848⟩, ⟨0x1ee21, 1, 1, -124921⟩, ⟨0x1ee22, 1, 1, -124918⟩,
  ⟨0x1ee24, 1, 1, -124893⟩, ⟨0x1ee27, 1, 1, -124922⟩, ⟨0x1ee29, 1, 1, -124895⟩,
  ⟨0x1ee2a, 4, 1, -124903⟩, ⟨0x1ee2e, 1, 1, -124923⟩, ⟨0x1ee2f, 1, 1, -124918⟩,
  ⟨0x1ee30, 1, 1, -124911⟩, ⟨0x1ee31, 1, 1, -124924⟩, ⟨0x1ee32, 1, 1, -124912⟩,
  ⟨0x1ee34, 1, 1, -124928⟩, ⟨0x1ee35, 2, 1, -124939⟩, ⟨0x1ee37, 1, 1, -124937⟩,
  ⟨0x1ee39, 1, 1, -124931⟩, ⟨0x1ee3b, 1, 1, -124929⟩, ⟨0x1ee42, 1, 1, -124950⟩,
  ⟨0x1ee47, 1, 1, -124954⟩, ⟨0x1ee49, 1, 1, -124927⟩, ⟨0x1ee4b, 2, 2, -124935⟩,
  ⟨0x1ee4e, 1, 1, -124955⟩, ⟨0x1ee4f, 1, 1, -124950⟩, ⟨0x1ee51, 1, 1, -124956⟩,
  ⟨0x1ee52, 1, 1, -124944⟩, ⟨0x1ee54, 1, 1, -124960⟩, ⟨0x1ee57, 1, 1, -124969⟩,
  ⟨0x1ee59, 1, 1, -124963⟩, ⟨0x1ee5b, 1, 1, -124961⟩, ⟨0x1ee5d, 1, 1, -124835⟩,
  ⟨0x1ee5f, 1, 1, -124912⟩, ⟨0x1ee61, 1, 1, -124985⟩, ⟨0x1ee62, 1, 1, -124982⟩,
  ⟨0x1ee64, 1, 1, -124957⟩, ⟨0x1ee67, 1, 1, -124986⟩, ⟨0x1ee68, 1, 1, -124977⟩,
  ⟨0x1ee69, 1, 1, -124959⟩, ⟨0x1ee6a, 2, 2, -124967⟩, ⟨0x1ee6d, 1, 1, -124967⟩,
  ⟨0x1ee6e, 1, 1, -124987⟩, ⟨0x1ee6f, 1, 1, -124982⟩, ⟨0x1ee70, 1, 1, -124975⟩,
  ⟨0x1ee71, 1, 1, -124988⟩, ⟨0x1ee72, 1, 1, -124976⟩, ⟨0x1ee74, 1, 1, -124992⟩,
  ⟨0x1ee75, 2, 1, -125003⟩, ⟨0x1ee77, 1, 1, -125001⟩, ⟨0x1ee79, 1, 1, -124995⟩,
  ⟨0x1ee7a, 1, 1, -124994⟩, ⟨0x1ee7b, 1, 1, -124993⟩, ⟨0x1ee7c, 1, 1, -124942⟩,
  ⟨0x1ee7e, 1, 1, -124893⟩, ⟨0x1ee80, 2, 1, -125017⟩, ⟨0x1ee82, 1, 1, -125014⟩,
  ⟨0x1ee83, 1, 1, -125012⟩, ⟨0x1ee84, 2, 1, -124989⟩, ⟨0x1ee86, 1, 1, -125012⟩,
  ⟨0x1ee87, 1, 1, -125018⟩, ⟨0x1ee88, 1, 1, -125009⟩, ⟨0x1ee89, 1, 1, -124991⟩,
  ⟨0x1ee8b, 3, 1, -124999⟩, ⟨0x1ee8e, 1, 1, -125019⟩, ⟨0x1ee8f, 1, 1, -125014⟩,
  ⟨0x1ee90, 1, 1, -125007⟩, ⟨0x1ee91, 1, 1, -125020⟩, ⟨0x1ee92, 1, 1, -125008⟩,
  ⟨0x1ee93, 1, 1, -125026⟩, ⟨0x1ee94, 1, 1, -125024⟩, ⟨0x1ee95, 2, 1, -125035⟩,
  ⟨0x1ee97, 1, 1, -125033⟩, ⟨0x1ee98, 1, 1, -125032⟩, ⟨0x1ee99, 1, 1, -125027⟩,
  ⟨0x1ee9a, 1, 1, -125026⟩, ⟨0x1ee9b, 1, 1, -125025⟩, ⟨0x1eea1, 1, 1, -125049⟩,
  ⟨0x1eea2, 1, 1, -125046⟩, ⟨0x1eea3, 1, 1, -125044⟩, ⟨0x1eea5, 1, 1, -125021⟩,
  ⟨0x1eea6, 1, 1, -125044⟩, ⟨0x1eea7, 1, 1, -125050⟩, ⟨0x1eea8, 1, 1, -125041⟩,
  ⟨0x1eea9, 1, 1, -125023⟩, ⟨0x1eeab, 3, 1, -125031⟩, ⟨0x1eeae, 1, 1, -125051⟩,
  ⟨0x1eeaf, 1, 1, -125046⟩, ⟨0x1eeb0, 1, 1, -125039⟩, ⟨0x1eeb1, 1, 1, -125052⟩,
  ⟨0x1eeb2, 1, 1, -125040⟩, ⟨0x1eeb3, 1, 1, -125058⟩, ⟨0x1eeb4, 1, 1, -125056⟩,
  ⟨0x1eeb5, 2, 1, -125067⟩, ⟨0x1eeb7, 1, 1, -125065⟩, ⟨0x1eeb8, 1, 1, -125064⟩,
  ⟨0x1eeb9, 1, 1, -125059⟩, ⟨0x1eeba, 1, 1, -125058⟩, ⟨0x1eebb, 1, 1, -125057⟩,
  ⟨0x1f12b, 1, 1, -127176⟩, ⟨0x1f12c, 1, 1, -127162⟩, ⟨0x1f130, 26, 1, -127183⟩,
  ⟨0x1f202, 1, 1, -115021⟩, ⟨0x1f210, 1, 1, -102341⟩, ⟨0x1f211, 1, 1, -104122⟩,
  ⟨0x1f212, 1, 1, -106054⟩, ⟨0x1f213, 1, 1, -115020⟩, ⟨0x1f214, 1, 1, -107400⟩,
  ⟨0x1f215, 1, 1, -104699⟩, ⟨0x1f216, 1, 1, -92211⟩, ⟨0x1f217, 1, 1, -104686⟩,
  ⟨0x1f218, 1, 1, -107380⟩, ⟨0x1f219, 1, 1, -101369⟩, ⟨0x1f21a, 1, 1, -98553⟩,
  ⟨0x1f21b, 1, 1, -101506⟩, ⟨0x1f21c, 1, 1, -106447⟩, ⟨0x1f21d, 1, 1, -103057⟩,
  ⟨0x1f21e, 1, 1, -106641⟩, ⟨0x1f21f, 1, 1, -101487⟩, ⟨0x1f220, 1, 1, -106499⟩,
  ⟨0x1f221, 1, 1, -95455⟩, ⟨0x1f222, 1, 1, -97539⟩, ⟨0x1f223, 1, 1, -91514⟩,
  ⟨0x1f224, 1, 1, -104756⟩, ⟨0x1f225, 1, 1, -105964⟩, ⟨0x1f226, 1, 1, -99090⟩,
  ⟨0x1f227, 1, 1, -102290⟩, ⟨0x1f228, 1, 1, -102099⟩, ⟨0x1f229, 1, 1, -107561⟩,
  ⟨0x1f22a, 1, 1, -107553⟩, ⟨0x1f22b, 1, 1, -90593⟩, ⟨0x1f22c, 1, 1, -103494⟩,
  ⟨0x1f22d, 1, 1, -107520⟩, ⟨0x1f22e, 1, 1, -106043⟩, ⟨0x1f22f, 1, 1, -102184⟩,
  ⟨0x1f230, 1, 1, -91328⟩, ⟨0x1f231, 1, 1, -102366⟩, ⟨0x1f232, 1, 1, -96433⟩,
  ⟨0x1f233, 1, 1, -96185⟩, ⟨0x1f234, 1, 1, -106028⟩, ⟨0x1f235, 1, 1, -99253⟩,
  ⟨0x1f236, 1, 1, -101165⟩, ⟨0x1f237, 1, 1, -101167⟩, ⟨0x1f238, 1, 1, -97541⟩,
  ⟨0x1f239, 1, 1, -106439⟩, ⟨0x1f23a, 1, 1, -105604⟩, ⟨0x1f23b, 1, 1, -90350⟩,
  ⟨0x1f250, 1, 1, -103097⟩, ⟨0x1f251, 1, 1, -106082⟩, ⟨0x1fbf0, 10, 1, -129984⟩]

def laterIdeographShifts : List Shift := [
  ⟨0x2f800, 1, 1, -174531⟩, ⟨0x2f801, 1, 1, -174537⟩, ⟨0x2f802, 1, 1, -174529⟩,
  ⟨0x2f803, 1, 1, -63201⟩, ⟨0x2f804, 1, 1, -174244⟩, ⟨0x2f805, 1, 1, -174167⟩,
  ⟨0x2f806, 1, 1, -174155⟩, ⟨0x2f807, 1, 1, -174085⟩, ⟨0x2f808, 1, 1, -173966⟩,
  ⟨0x2f809, 1, 1, -173936⟩, ⟨0x2f80a, 1, 1, -173859⟩, ⟨0x2f80b, 1, 1, -173884⟩,
  ⟨0x2f80c, 1, 1, -181102⟩, ⟨0x2f80d, 1, 1, -61907⟩, ⟨0x2f80e, 1, 1, -173761⟩,
  ⟨0x2f80f, 1, 1, -173755⟩, ⟨0x2f810, 1, 1, -173740⟩, ⟨0x2f811, 1, 1, -173722⟩,
  ⟨0x2f812, 1, 1, -62198⟩, ⟨0x2f813, 1, 1, -181082⟩, ⟨0x2f814, 1, 1, -173741⟩,
  ⟨0x2f815, 1, 1, -173704⟩, ⟨0x2f816, 1, 1, -62155⟩, ⟨0x2f817, 1, 1, -173696⟩,
  ⟨0x2f818, 1, 1, -173684⟩, ⟨0x2f819, 1, 1, -174413⟩, ⟨0x2f81a, 1, 1, -173678⟩,
  ⟨0x2f81b, 1, 1, -173670⟩, ⟨0x2f81c, 1, 1, -26173⟩, ⟨0x2f81d, 1, 1, -173608⟩,
  ⟨0x2f81e, 1, 1, -173595⟩, ⟨0x2f81f, 1, 1, -181056⟩, ⟨0x2f820, 1, 1, -173541⟩,
  ⟨0x2f821, 1, 1, -173531⟩, ⟨0x2f822, 1, 1, -173488⟩, ⟨0x2f823, 1, 1, -173484⟩,
  ⟨0x2f824, 1, 1, -181007⟩, ⟨0x2f825, 1, 1, -173406⟩, ⟨0x2f826, 1, 1, -173405⟩,
  ⟨0x2f827, 1, 1, -173379⟩, ⟨0x2f828, 1, 1, -173358⟩, ⟨0x2f829, 2, 1, -173348⟩,
  ⟨0x2f82b, 1, 1, -173332⟩, ⟨0x2f82c, 1, 1, -173283⟩, ⟨0x2f82d, 1, 1, -173276⟩,
  ⟨0x2f82e, 1, 1, -173268⟩, ⟨0x2f82f, 1, 1, -173244⟩, ⟨0x2f830, 2, 2, -173235⟩,
  ⟨0x2f831, 1, 1, -173234⟩, ⟨0x2f833, 1, 1, -173236⟩, ⟨0x2f834, 1, 1, -60936⟩,
  ⟨0x2f835, 1, 1, -165829⟩, ⟨0x2f836, 1, 1, -173164⟩, ⟨0x2f837, 1, 1, -173144⟩,
  ⟨0x2f838, 1, 1, -60629⟩, ⟨0x2f839, 1, 1, -173134⟩, ⟨0x2f83a, 1, 1, -173129⟩,
  ⟨0x2f83b, 1, 1, -173109⟩, ⟨0x2f83c, 1, 1, -172958⟩, ⟨0x2f83d, 1, 1, -173061⟩,
  ⟨0x2f83e, 1, 1, -173046⟩, ⟨0x2f83f, 1, 1, -173015⟩, ⟨0x2f840, 1, 1, -172958⟩,
  ⟨0x2f841, 1, 1, -172875⟩, ⟨0x2f842, 1, 1, -172850⟩, ⟨0x2f843, 1, 1, -172784⟩,
  ⟨0x2f844, 1, 1, -172769⟩, ⟨0x2f845, 1, 1, -172737⟩, ⟨0x2f846, 1, 1, -172738⟩,
  ⟨0x2f847, 1, 1, -172718⟩, ⟨0x2f848, 1, 1, -172701⟩, ⟨0x2f849, 1, 1, -172694⟩,
  ⟨0x2f84a, 1, 1, -172680⟩, ⟨0x2f84b, 1, 1, -172341⟩, ⟨0x2f84c, 1, 1, -172614⟩,
  ⟨0x2f84d, 1, 1, -172342⟩, ⟨0x2f84e, 1, 1, -172541⟩, ⟨0x2f84f, 1, 1, -172507⟩,
  ⟨0x2f850, 1, 1, -173641⟩, ⟨0x2f851, 1, 1, -171875⟩, ⟨0x2f852, 1, 1, -172164⟩,
  ⟨0x2f853, 1, 1, -172127⟩, ⟨0x2f854, 1, 1, -172103⟩, ⟨0x2f855, 1, 1, -172234⟩,
  ⟨0x2f856, 1, 1, -172068⟩, ⟨0x2f857, 1, 1, -172070⟩, ⟨0x2f858, 1, 1, -171948⟩,
  ⟨0x2f859, 1, 1, -58229⟩, ⟨0x2f85a, 1, 1, -171880⟩, ⟨0x2f85b, 1, 1, -171876⟩,
  ⟨0x2f85c, 1, 1, -171862⟩, ⟨0x2f85d, 1, 1, -171843⟩, ⟨0x2f85e, 1, 1, -171836⟩,
  ⟨0x2f85f, 1, 1, -171773⟩, ⟨0x2f860, 1, 1, -57784⟩, ⟨0x2f861, 1, 1, -57719⟩,
  ⟨0x2f862, 1, 1, -171638⟩, ⟨0x2f863, 1, 1, -171592⟩, ⟨0x2f864, 1, 1, -171581⟩,
  ⟨0x2f865, 1, 1, -171661⟩, ⟨0x2f866, 1, 1, -171520⟩, ⟨0x2f867, 1, 1, -180601⟩,
  ⟨0x2f868, 1, 1, -180588⟩, ⟨0x2f869, 1, 1, -171361⟩, ⟨0x2f86a, 1, 1, -171308⟩,
  ⟨0x2f86b, 1, 1, -171309⟩, ⟨0x2f86c, 1, 1, -56996⟩, ⟨0x2f86d, 1, 1, -171178⟩,
  ⟨0x2f86e, 1, 1, -171158⟩, ⟨0x2f86f, 1, 1, -171144⟩, ⟨0x2f870, 1, 1, -171133⟩,
  ⟨0x2f871, 1, 1, -56665⟩, ⟨0x2f872, 1, 1, -171123⟩, ⟨0x2f873, 1, 1, -171117⟩,
  ⟨0x2f874, 1, 1, -170273⟩, ⟨0x2f875, 1, 1, -171091⟩, ⟨0x2f876, 1, 1, -180469⟩,
  ⟨0x2f877, 1, 1, -171031⟩, ⟨0x2f878, 1, 1, -171018⟩, ⟨0x2f879, 1, 1, -170937⟩,
  ⟨0x2f87a, 1, 1, -170989⟩, ⟨0x2f87b, 2, 2, -55959⟩, ⟨0x2f87c, 1, 1, -170809⟩,
  ⟨0x2f87e, 1, 1, -170768⟩, ⟨0x2f87f, 1, 1, -170772⟩, ⟨0x2f880, 1, 1, -170756⟩,
  ⟨0x2f881, 2, 1, -170656⟩, ⟨0x2f883, 1, 1, -180308⟩, ⟨0x2f884, 1, 1, -170631⟩,
  ⟨0x2f885, 1, 1, -170589⟩, ⟨0x2f886, 1, 1, -170569⟩, ⟨0x2f887, 1, 1, -170526⟩,
  ⟨0x2f888, 1, 1, -180262⟩, ⟨0x2f889, 1, 1, -55046⟩, ⟨0x2f88a, 1, 1, -180238⟩,
  ⟨0x2f88b, 1, 1, -170459⟩, ⟨0x2f88c, 1, 1, -170457⟩, ⟨0x2f88d, 1, 1, -170455⟩,
  ⟨0x2f88e, 1, 1, -170436⟩, ⟨0x2f88f, 1, 1, -21757⟩, ⟨0x2f890, 1, 1, -170386⟩,
  ⟨0x2f891, 1, 1, -54624⟩, ⟨0x2f892, 1, 1, -54625⟩, ⟨0x2f893, 1, 1, -161426⟩,
  ⟨0x2f894, 1, 1, -170354⟩, ⟨0x2f895, 1, 1, -170355⟩, ⟨0x2f896, 1, 1, -180175⟩,
  ⟨0x2f897, 1, 1, -50655⟩, ⟨0x2f898, 1, 1, -38590⟩, ⟨0x2f899, 1, 1, -170295⟩,
  ⟨0x2f89a, 1, 1, -170287⟩, ⟨0x2f89b, 1, 1, -180152⟩, ⟨0x2f89c, 1, 1, -170242⟩,
  ⟨0x2f89d, 1, 1, -170192⟩, ⟨0x2f89e, 1, 1, -170183⟩, ⟨0x2f89f, 1, 1, -170150⟩,
  ⟨0x2f8a0, 1, 1, -170015⟩, ⟨0x2f8a1, 1, 1, -180071⟩, ⟨0x2f8a2, 1, 1, -180102⟩,
  ⟨0x2f8a3, 1, 1, -169999⟩, ⟨0x2f8a4, 1, 1, -53712⟩, ⟨0x2f8a5, 1, 1, -169950⟩,
  ⟨0x2f8a6, 1, 1, -169822⟩, ⟨0x2f8a7, 1, 1, -169819⟩, ⟨0x2f8a8, 1, 1, -169818⟩,
  ⟨0x2f8a9, 1, 1, -169821⟩, ⟨0x2f8aa, 1, 1, -169776⟩, ⟨0x2f8ab, 1, 1, -169757⟩,
  ⟨0x2f8ac, 1, 1, -169722⟩, ⟨0x2f8ad, 1, 1, -169737⟩, ⟨0x2f8ae, 1, 1, -169727⟩,
  ⟨0x2f8af, 1, 1, -169681⟩, ⟨0x2f8b0, 1, 1, -169662⟩, ⟨0x2f8b1, 1, 1, -169659⟩,
  ⟨0x2f8b2, 1, 1, -169634⟩, ⟨0x2f8b3, 1, 1, -169624⟩, ⟨0x2f8b4, 1, 1, -169559⟩,
  ⟨0x2f8b5, 1, 1, -169476⟩, ⟨0x2f8b6, 1, 1, -169442⟩, ⟨0x2f8b7, 1, 1, -169319⟩,
  ⟨0x2f8b8, 1, 1, -52652⟩, ⟨0x2f8b9, 1, 1, -169340⟩, ⟨0x2f8ba, 1, 1, -169406⟩,
  ⟨0x2f8bb, 1, 1, -169299⟩, ⟨0x2f8bc, 1, 1, -169273⟩, ⟨0x2f8bd, 1, 1, -169177⟩,
  ⟨0x2f8be, 1, 1, -52429⟩, ⟨0x2f8bf, 1, 1, -169117⟩, ⟨0x2f8c0, 1, 1, -169211⟩,
  ⟨0x2f8c1, 1, 1, -169240⟩, ⟨0x2f8c2, 1, 1, -179860⟩, ⟨0x2f8c3, 1, 1, -169050⟩,
  ⟨0x2f8c4, 1, 1, -169030⟩, ⟨0x2f8c5, 1, 1, -169000⟩, ⟨0x2f8c6, 1, 1, -169039⟩,
  ⟨0x2f8c7, 1, 1, -179803⟩, ⟨0x2f8c8, 1, 1, -168825⟩, ⟨0x2f8c9, 1, 1, -168797⟩,
  ⟨0x2f8ca, 1, 1, -51392⟩, ⟨0x2f8cb, 1, 1, -168680⟩, ⟨0x2f8cc, 1, 1, -168404⟩,
  ⟨0x2f8cd, 1, 1, -168580⟩, ⟨0x2f8ce, 1, 1, -179637⟩, ⟨0x2f8cf, 1, 1, -168510⟩,
  ⟨0x2f8d0, 1, 1, -179656⟩, ⟨0x2f8d1, 1, 1, -179693⟩, ⟨0x2f8d2, 1, 1, -173888⟩,
  ⟨0x2f8d3, 1, 1, -173886⟩, ⟨0x2f8d4, 1, 1, -168404⟩, ⟨0x2f8d5, 1, 1, -168505⟩,
  ⟨0x2f8d6, 1, 1, -161833⟩, ⟨0x2f8d7, 1, 1, -177406⟩, ⟨0x2f8d8, 1, 1, -168385⟩,
  ⟨0x2f8d9, 1, 1, -168382⟩, ⟨0x2f8da, 1, 1, -168377⟩, ⟨0x2f8db, 1, 1, -168317⟩,
  ⟨0x2f8dc, 1, 1, -168329⟩, ⟨0x2f8dd, 1, 1, -50458⟩, ⟨0x2f8de, 1, 1, -179605⟩,
  ⟨0x2f8df, 1, 1, -168165⟩, ⟨0x2f8e0, 1, 1, -168283⟩, ⟨0x2f8e1, 1, 1, -168079⟩,
  ⟨0x2f8e2, 1, 1, -168029⟩, ⟨0x2f8e3, 1, 1, -50294⟩, ⟨0x2f8e4, 1, 1, -168022⟩,
  ⟨0x2f8e5, 1, 1, -168134⟩, ⟨0x2f8e6, 1, 1, -167890⟩, ⟨0x2f8e7, 1, 1, -179530⟩,
  ⟨0x2f8e8, 1, 1, -167846⟩, ⟨0x2f8e9, 1, 1, -167750⟩, ⟨0x2f8ea, 1, 1, -167680⟩,
  ⟨0x2f8eb, 1, 1, -167491⟩, ⟨0x2f8ec, 1, 1, -49737⟩, ⟨0x2f8ed, 1, 1, -167442⟩,
  ⟨0x2f8ee, 1, 1, -179414⟩, ⟨0x2f8ef, 1, 1, -167374⟩, ⟨0x2f8f0, 1, 1, -49225⟩,
  ⟨0x2f8f1, 1, 1, -167325⟩, ⟨0x2f8f2, 1, 1, -179364⟩, ⟨0x2f8f3, 1, 1, -167297⟩,
  ⟨0x2f8f4, 1, 1, -167253⟩, ⟨0x2f8f5, 2, 1, -167227⟩, ⟨0x2f8f7, 1, 1, -48746⟩,
  ⟨0x2f8f8, 1, 1, -56301⟩, ⟨0x2f8f9, 1, 1, -48639⟩, ⟨0x2f8fa, 1, 1, -167084⟩,
  ⟨0x2f8fb, 1, 1, -48191⟩, ⟨0x2f8fc, 1, 1, -166973⟩, ⟨0x2f8fd, 1, 1, -166960⟩,
  ⟨0x2f8fe, 1, 1, -167063⟩, ⟨0x2f8ff, 1, 1, -166889⟩, ⟨0x2f900, 1, 1, -166850⟩,
  ⟨0x2f901, 1, 1, -166794⟩, ⟨0x2f902, 1, 1, -166849⟩, ⟨0x2f903, 1, 1, -166810⟩,
  ⟨0x2f904, 1, 1, -166796⟩, ⟨0x2f905, 1, 1, -166784⟩, ⟨0x2f906, 1, 1, -48104⟩,
  ⟨0x2f907, 1, 1, -166867⟩, ⟨0x2f908, 1, 1, -166617⟩, ⟨0x2f909, 1, 1, -166555⟩,
  ⟨0x2f90a, 1, 1, -179159⟩, ⟨0x2f90b, 1, 1, -166464⟩, ⟨0x2f90c, 1, 1, -166469⟩,
  ⟨0x2f90d, 1, 1, -47676⟩, ⟨0x2f90e, 1, 1, -166677⟩, ⟨0x2f90f, 1, 1, -166305⟩,
  ⟨0x2f910, 1, 1, -47538⟩, ⟨0x2f911, 1, 1, -47491⟩, ⟨0x2f912, 1, 1, -166220⟩,
  ⟨0x2f913, 1, 1, -166106⟩, ⟨0x2f914, 1, 1, -166134⟩, ⟨0x2f915, 1, 1, -166138⟩,
  ⟨0x2f916, 1, 1, -179072⟩, ⟨0x2f917, 1, 1, -166093⟩, ⟨0x2f918, 1, 1, -166043⟩,
  ⟨0x2f919, 1, 1, -166050⟩, ⟨0x2f91a, 1, 1, -165997⟩, ⟨0x2f91b, 1, 1, -62454⟩,
  ⟨0x2f91c, 1, 1, -165847⟩, ⟨0x2f91d, 1, 1, -46778⟩, ⟨0x2f91e, 1, 1, -165762⟩,
  ⟨0x2f91f, 1, 1, -46452⟩]

def lastIdeographShifts : List Shift := [
  ⟨0x2f920, 1, 1, -165624⟩, ⟨0x2f921, 1, 1, -165612⟩, ⟨0x2f922, 1, 1, -165586⟩,
  ⟨0x2f923, 1, 1, -45851⟩, ⟨0x2f924, 1, 1, -165540⟩, ⟨0x2f925, 1, 1, -165520⟩,
  ⟨0x2f926, 1, 1, -45553⟩, ⟨0x2f927, 1, 1, -45331⟩, ⟨0x2f928, 1, 1, -165294⟩,
  ⟨0x2f929, 1, 1, -165278⟩, ⟨0x2f92a, 1, 1, -178814⟩, ⟨0x2f92b, 1, 1, -165254⟩,
  ⟨0x2f92c, 1, 1, -178804⟩, ⟨0x2f92d, 1, 1, -178805⟩, ⟨0x2f92e, 1, 1, -165095⟩,
  ⟨0x2f92f, 1, 1, -165075⟩, ⟨0x2f930, 1, 1, -165055⟩, ⟨0x2f931, 1, 1, -165036⟩,
  ⟨0x2f932, 1, 1, -164968⟩, ⟨0x2f933, 1, 1, -178712⟩, ⟨0x2f934, 1, 1, -164880⟩,
  ⟨0x2f935, 1, 1, -44287⟩, ⟨0x2f936, 1, 1, -164856⟩, ⟨0x2f937, 1, 1, -44197⟩,
  ⟨0x2f938, 1, 1, -164808⟩, ⟨0x2f939, 1, 1, -55194⟩, ⟨0x2f93a, 1, 1, -164650⟩,
  ⟨0x2f93b, 1, 1, -43418⟩, ⟨0x2f93c, 1, 1, -43396⟩, ⟨0x2f93d, 1, 1, -43257⟩,
  ⟨0x2f93e, 1, 1, -178498⟩, ⟨0x2f93f, 1, 1, -178487⟩, ⟨0x2f940, 1, 1, -164428⟩,
  ⟨0x2f941, 1, 1, -43086⟩, ⟨0x2f942, 1, 1, -43088⟩, ⟨0x2f943, 1, 1, -43050⟩,
  ⟨0x2f944, 1, 1, -43025⟩, ⟨0x2f945, 2, 1, -164391⟩, ⟨0x2f947, 1, 1, -164392⟩,
  ⟨0x2f948, 1, 1, -164350⟩, ⟨0x2f949, 1, 1, -178448⟩, ⟨0x2f94a, 1, 1, -164287⟩,
  ⟨0x2f94b, 1, 1, -178437⟩, ⟨0x2f94c, 1, 1, -178358⟩, ⟨0x2f94d, 1, 1, -42288⟩,
  ⟨0x2f94e, 1, 1, -164096⟩, ⟨0x2f94f, 1, 1, -164035⟩, ⟨0x2f950, 1, 1, -163972⟩,
  ⟨0x2f951, 1, 1, -178286⟩, ⟨0x2f952, 1, 1, -41772⟩, ⟨0x2f953, 1, 1, -163837⟩,
  ⟨0x2f954, 1, 1, -41658⟩, ⟨0x2f955, 1, 1, -41616⟩, ⟨0x2f956, 1, 1, -163783⟩,
  ⟨0x2f957, 1, 1, -163692⟩, ⟨0x2f958, 1, 1, -178217⟩, ⟨0x2f959, 1, 1, -163609⟩,
  ⟨0x2f95a, 1, 1, -163600⟩, ⟨0x2f95b, 1, 1, -163596⟩, ⟨0x2f95c, 1, 1, -40928⟩,
  ⟨0x2f95d, 1, 1, -40630⟩, ⟨0x2f95e, 1, 1, -40631⟩, ⟨0x2f95f, 1, 1, -163441⟩,
  ⟨0x2f960, 1, 1, -178014⟩, ⟨0x2f961, 1, 1, -40374⟩, ⟨0x2f962, 1, 1, -163228⟩,
  ⟨0x2f963, 1, 1, -163226⟩, ⟨0x2f964, 1, 1, -177981⟩, ⟨0x2f965, 1, 1, -40165⟩,
  ⟨0x2f966, 1, 1, -162964⟩, ⟨0x2f967, 1, 1, -177863⟩, ⟨0x2f968, 1, 1, -162944⟩,
  ⟨0x2f969, 1, 1, -162950⟩, ⟨0x2f96a, 1, 1, -162922⟩, ⟨0x2f96b, 1, 1, -39397⟩,
  ⟨0x2f96c, 1, 1, -162825⟩, ⟨0x2f96d, 1, 1, -177772⟩, ⟨0x2f96e, 1, 1, -162727⟩,
  ⟨0x2f96f, 1, 1, -162669⟩, ⟨0x2f970, 1, 1, -162603⟩, ⟨0x2f971, 1, 1, -177725⟩,
  ⟨0x2f972, 1, 1, -38730⟩, ⟨0x2f973, 1, 1, -38700⟩, ⟨0x2f974, 1, 1, -177691⟩,
  ⟨0x2f975, 1, 1, -38556⟩, ⟨0x2f976, 1, 1, -162300⟩, ⟨0x2f977, 1, 1, -38457⟩,
  ⟨0x2f978, 1, 1, -162275⟩, ⟨0x2f979, 1, 1, -162175⟩, ⟨0x2f97a, 1, 1, -162165⟩,
  ⟨0x2f97b, 1, 1, -38049⟩, ⟨0x2f97c, 1, 1, -37977⟩, ⟨0x2f97d, 1, 1, -162077⟩,
  ⟨0x2f97e, 1, 1, -37846⟩, ⟨0x2f97f, 1, 1, -162063⟩, ⟨0x2f980, 1, 1, -50721⟩,
  ⟨0x2f981, 1, 1, -177580⟩, ⟨0x2f982, 1, 1, -162000⟩, ⟨0x2f983, 1, 1, -161920⟩,
  ⟨0x2f984, 1, 1, -177529⟩, ⟨0x2f985, 1, 1, -161863⟩, ⟨0x2f986, 1, 1, -171729⟩,
  ⟨0x2f987, 1, 1, -37344⟩, ⟨0x2f988, 1, 1, -37331⟩, ⟨0x2f989, 1, 1, -50678⟩,
  ⟨0x2f98a, 1, 1, -50670⟩, ⟨0x2f98b, 1, 1, -161674⟩, ⟨0x2f98c, 1, 1, -161672⟩,
  ⟨0x2f98d, 1, 1, -158191⟩, ⟨0x2f98e, 1, 1, -177443⟩, ⟨0x2f98f, 1, 1, -161534⟩,
  ⟨0x2f990, 1, 1, -161541⟩, ⟨0x2f991, 1, 1, -161524⟩, ⟨0x2f992, 1, 1, -173791⟩,
  ⟨0x2f993, 1, 1, -161506⟩, ⟨0x2f994, 1, 1, -161505⟩, ⟨0x2f995, 1, 1, -161496⟩,
  ⟨0x2f996, 1, 1, -161456⟩, ⟨0x2f997, 1, 1, -36443⟩, ⟨0x2f998, 1, 1, -161459⟩,
  ⟨0x2f999, 1, 1, -161404⟩, ⟨0x2f99a, 1, 1, -161335⟩, ⟨0x2f99b, 1, 1, -161262⟩,
  ⟨0x2f99c, 1, 1, -161401⟩, ⟨0x2f99d, 1, 1, -161248⟩, ⟨0x2f99e, 1, 1, -161207⟩,
  ⟨0x2f99f, 1, 1, -161096⟩, ⟨0x2f9a0, 1, 1, -161357⟩, ⟨0x2f9a1, 1, 1, -161239⟩,
  ⟨0x2f9a2, 1, 1, -161238⟩, ⟨0x2f9a3, 1, 1, -161223⟩, ⟨0x2f9a4, 1, 1, -36206⟩,
  ⟨0x2f9a5, 1, 1, -35898⟩, ⟨0x2f9a6, 1, 1, -36049⟩, ⟨0x2f9a7, 1, 1, -177276⟩,
  ⟨0x2f9a8, 1, 1, -160951⟩, ⟨0x2f9a9, 1, 1, -160950⟩, ⟨0x2f9aa, 1, 1, -160916⟩,
  ⟨0x2f9ab, 1, 1, -34273⟩, ⟨0x2f9ac, 1, 1, -160840⟩, ⟨0x2f9ad, 1, 1, -35457⟩,
  ⟨0x2f9ae, 1, 1, -177233⟩, ⟨0x2f9af, 1, 1, -177230⟩, ⟨0x2f9b0, 1, 1, -35327⟩,
  ⟨0x2f9b1, 1, 1, -35039⟩, ⟨0x2f9b2, 1, 1, -177223⟩, ⟨0x2f9b3, 1, 1, -160611⟩,
  ⟨0x2f9b4, 1, 1, -160600⟩, ⟨0x2f9b5, 1, 1, -160590⟩, ⟨0x2f9b6, 1, 1, -160589⟩,
  ⟨0x2f9b7, 1, 1, -160526⟩, ⟨0x2f9b8, 1, 1, -160560⟩, ⟨0x2f9b9, 1, 1, -160427⟩,
  ⟨0x2f9ba, 1, 1, -160472⟩, ⟨0x2f9bb, 1, 1, -160322⟩, ⟨0x2f9bc, 1, 1, -160404⟩,
  ⟨0x2f9bd, 1, 1, -160338⟩, ⟨0x2f9be, 1, 1, -160312⟩, ⟨0x2f9bf, 1, 1, -177128⟩,
  ⟨0x2f9c0, 1, 1, -160223⟩, ⟨0x2f9c1, 1, 1, -160192⟩, ⟨0x2f9c2, 1, 1, -177097⟩,
  ⟨0x2f9c3, 1, 1, -160099⟩, ⟨0x2f9c4, 1, 1, -160097⟩, ⟨0x2f9c5, 1, 1, -33630⟩,
  ⟨0x2f9c6, 1, 1, -159983⟩, ⟨0x2f9c7, 1, 1, -159977⟩, ⟨0x2f9c8, 1, 1, -177043⟩,
  ⟨0x2f9c9, 1, 1, -159951⟩, ⟨0x2f9ca, 1, 1, -181519⟩, ⟨0x2f9cb, 1, 1, -33053⟩,
  ⟨0x2f9cc, 1, 1, -32870⟩, ⟨0x2f9cd, 1, 1, -176911⟩, ⟨0x2f9ce, 1, 1, -176903⟩,
  ⟨0x2f9cf, 1, 1, -159535⟩, ⟨0x2f9d0, 1, 1, -159459⟩, ⟨0x2f9d1, 1, 1, -159303⟩,
  ⟨0x2f9d2, 1, 1, -159101⟩, ⟨0x2f9d3, 1, 1, -32043⟩, ⟨0x2f9d4, 1, 1, -159017⟩,
  ⟨0x2f9d5, 1, 1, -158996⟩, ⟨0x2f9d6, 1, 1, -158907⟩, ⟨0x2f9d7, 1, 1, -158816⟩,
  ⟨0x2f9d8, 1, 1, -31401⟩, ⟨0x2f9d9, 1, 1, -61909⟩, ⟨0x2f9da, 1, 1, -158735⟩,
  ⟨0x2f9db, 1, 1, -158751⟩, ⟨0x2f9dc, 1, 1, -158700⟩, ⟨0x2f9dd, 1, 1, -61695⟩,
  ⟨0x2f9de, 1, 1, -158474⟩, ⟨0x2f9df, 1, 1, -158375⟩, ⟨0x2f9e0, 1, 1, -29710⟩,
  ⟨0x2f9e1, 1, 1, -29684⟩, ⟨0x2f9e2, 1, 1, -158030⟩, ⟨0x2f9e3, 1, 1, -157938⟩,
  ⟨0x2f9e4, 1, 1, -157907⟩, ⟨0x2f9e5, 1, 1, -29367⟩, ⟨0x2f9e6, 1, 1, -157899⟩,
  ⟨0x2f9e7, 1, 1, -157615⟩, ⟨0x2f9e8, 2, 1, -157457⟩, ⟨0x2f9ea, 1, 1, -157550⟩,
  ⟨0x2f9eb, 1, 1, -157170⟩, ⟨0x2f9ec, 1, 1, -157143⟩, ⟨0x2f9ed, 1, 1, -28147⟩,
  ⟨0x2f9ee, 1, 1, -156771⟩, ⟨0x2f9ef, 1, 1, -176218⟩, ⟨0x2f9f0, 1, 1, -156729⟩,
  ⟨0x2f9f1, 1, 1, -27770⟩, ⟨0x2f9f2, 1, 1, -176140⟩, ⟨0x2f9f3, 1, 1, -156464⟩,
  ⟨0x2f9f4, 1, 1, -171074⟩, ⟨0x2f9f5, 1, 1, -156370⟩, ⟨0x2f9f6, 1, 1, -26801⟩,
  ⟨0x2f9f7, 1, 1, -26589⟩, ⟨0x2f9f8, 1, 1, -176010⟩, ⟨0x2f9f9, 1, 1, -176003⟩,
  ⟨0x2f9fa, 1, 1, -156186⟩, ⟨0x2f9fb, 1, 1, -26097⟩, ⟨0x2f9fc, 1, 1, -175946⟩,
  ⟨0x2f9fd, 1, 1, -25959⟩, ⟨0x2f9fe, 1, 1, -156147⟩, ⟨0x2f9ff, 1, 1, -156148⟩,
  ⟨0x2fa00, 1, 1, -156119⟩, ⟨0x2fa01, 1, 1, -25675⟩, ⟨0x2fa02, 1, 1, -155936⟩,
  ⟨0x2fa03, 1, 1, -175824⟩, ⟨0x2fa04, 1, 1, -155867⟩, ⟨0x2fa05, 1, 1, -155742⟩,
  ⟨0x2fa06, 1, 1, -155716⟩, ⟨0x2fa07, 1, 1, -155657⟩, ⟨0x2fa08, 1, 1, -175674⟩,
  ⟨0x2fa09, 1, 1, -24281⟩, ⟨0x2fa0a, 1, 1, -155384⟩, ⟨0x2fa0b, 1, 1, -155083⟩,
  ⟨0x2fa0c, 1, 1, -154895⟩, ⟨0x2fa0d, 1, 1, -175423⟩, ⟨0x2fa0e, 1, 1, -175393⟩,
  ⟨0x2fa0f, 1, 1, -154792⟩, ⟨0x2fa10, 1, 1, -22850⟩, ⟨0x2fa11, 1, 1, -175385⟩,
  ⟨0x2fa12, 1, 1, -22797⟩, ⟨0x2fa13, 1, 1, -22533⟩, ⟨0x2fa14, 1, 1, -22403⟩,
  ⟨0x2fa15, 1, 1, -154458⟩, ⟨0x2fa16, 1, 1, -175296⟩, ⟨0x2fa17, 1, 1, -154398⟩,
  ⟨0x2fa18, 1, 1, -154394⟩, ⟨0x2fa19, 1, 1, -154388⟩, ⟨0x2fa1a, 1, 1, -154379⟩,
  ⟨0x2fa1b, 1, 1, -154373⟩, ⟨0x2fa1c, 1, 1, -154337⟩, ⟨0x2fa1d, 1, 1, -21533⟩]

def shifts : List Shift :=
  letterShifts ++ laterLetterShifts ++ radicalShifts ++ ideographShifts
    ++ formShifts ++ mathematicalShifts ++ laterIdeographShifts ++ lastIdeographShifts

def letterExpansions : List (Nat × List Nat) := [
  (0xa8, [0x20, 0x308]), (0xaf, [0x20, 0x304]), (0xb4, [0x20, 0x301]), (0xb8, [0x20, 0x327]),
  (0xbc, [0x31, 0x2044, 0x34]), (0xbd, [0x31, 0x2044, 0x32]), (0xbe, [0x33, 0x2044, 0x34]),
  (0x130, [0x69, 0x307]), (0x132, [0x69, 0x6a]), (0x133, [0x69, 0x6a]), (0x13f, [0x6c, 0xb7]),
  (0x140, [0x6c, 0xb7]), (0x149, [0x2bc, 0x6e]), (0x1c4, [0x64, 0x17e]), (0x1c5, [0x64, 0x17e]),
  (0x1c6, [0x64, 0x17e]), (0x1c7, [0x6c, 0x6a]), (0x1c8, [0x6c, 0x6a]), (0x1c9, [0x6c, 0x6a]),
  (0x1ca, [0x6e, 0x6a]), (0x1cb, [0x6e, 0x6a]), (0x1cc, [0x6e, 0x6a]), (0x1f1, [0x64, 0x7a]),
  (0x1f2, [0x64, 0x7a]), (0x1f3, [0x64, 0x7a]), (0x2d8, [0x20, 0x306]), (0x2d9, [0x20, 0x307]),
  (0x2da, [0x20, 0x30a]), (0x2db, [0x20, 0x328]), (0x2dc, [0x20, 0x303]), (0x2dd, [0x20, 0x30b]),
  (0x344, [0x308, 0x301]), (0x37a, [0x20, 0x3b9]), (0x384, [0x20, 0x301]),
  (0x385, [0x20, 0x308, 0x301]), (0x587, [0x565, 0x582]), (0x675, [0x627, 0x674]),
  (0x676, [0x648, 0x674]), (0x677, [0x6c7, 0x674]), (0x678, [0x64a, 0x674]),
  (0x958, [0x915, 0x93c]), (0x959, [0x916, 0x93c]), (0x95a, [0x917, 0x93c]),
  (0x95b, [0x91c, 0x93c]), (0x95c, [0x921, 0x93c]), (0x95d, [0x922, 0x93c]),
  (0x95e, [0x92b, 0x93c]), (0x95f, [0x92f, 0x93c]), (0x9dc, [0x9a1, 0x9bc]),
  (0x9dd, [0x9a2, 0x9bc]), (0x9df, [0x9af, 0x9bc]), (0xa33, [0xa32, 0xa3c]),
  (0xa36, [0xa38, 0xa3c]), (0xa59, [0xa16, 0xa3c]), (0xa5a, [0xa17, 0xa3c]),
  (0xa5b, [0xa1c, 0xa3c]), (0xa5e, [0xa2b, 0xa3c]), (0xb5c, [0xb21, 0xb3c]),
  (0xb5d, [0xb22, 0xb3c]), (0xe33, [0xe4d, 0xe32]), (0xeb3, [0xecd, 0xeb2]),
  (0xedc, [0xeab, 0xe99]), (0xedd, [0xeab, 0xea1]), (0xf43, [0xf42, 0xfb7]),
  (0xf4d, [0xf4c, 0xfb7]), (0xf52, [0xf51, 0xfb7]), (0xf57, [0xf56, 0xfb7]),
  (0xf5c, [0xf5b, 0xfb7]), (0xf69, [0xf40, 0xfb5]), (0xf73, [0xf71, 0xf72]),
  (0xf75, [0xf71, 0xf74]), (0xf76, [0xfb2, 0xf80]), (0xf77, [0xfb2, 0xf71, 0xf80]),
  (0xf78, [0xfb3, 0xf80]), (0xf79, [0xfb3, 0xf71, 0xf80]), (0xf81, [0xf71, 0xf80]),
  (0xf93, [0xf92, 0xfb7]), (0xf9d, [0xf9c, 0xfb7]), (0xfa2, [0xfa1, 0xfb7]),
  (0xfa7, [0xfa6, 0xfb7]), (0xfac, [0xfab, 0xfb7]), (0xfb9, [0xf90, 0xfb5]),
  (0x1e9a, [0x61, 0x2be]), (0x1f80, [0x1f00, 0x3b9]), (0x1f81, [0x1f01, 0x3b9]),
  (0x1f82, [0x1f02, 0x3b9]), (0x1f83, [0x1f03, 0x3b9]), (0x1f84, [0x1f04, 0x3b9]),
  (0x1f85, [0x1f05, 0x3b9]), (0x1f86, [0x1f06, 0x3b9]), (0x1f87, [0x1f07, 0x3b9]),
  (0x1f88, [0x1f00, 0x3b9]), (0x1f89, [0x1f01, 0x3b9]), (0x1f8a, [0x1f02, 0x3b9]),
  (0x1f8b, [0x1f03, 0x3b9]), (0x1f8c, [0x1f04, 0x3b9]), (0x1f8d, [0x1f05, 0x3b9]),
  (0x1f8e, [0x1f06, 0x3b9]), (0x1f8f, [0x1f07, 0x3b9]), (0x1f90, [0x1f20, 0x3b9]),
  (0x1f91, [0x1f21, 0x3b9]), (0x1f92, [0x1f22, 0x3b9]), (0x1f93, [0x1f23, 0x3b9]),
  (0x1f94, [0x1f24, 0x3b9]), (0x1f95, [0x1f25, 0x3b9]), (0x1f96, [0x1f26, 0x3b9]),
  (0x1f97, [0x1f27, 0x3b9]), (0x1f98, [0x1f20, 0x3b9]), (0x1f99, [0x1f21, 0x3b9]),
  (0x1f9a, [0x1f22, 0x3b9]), (0x1f9b, [0x1f23, 0x3b9]), (0x1f9c, [0x1f24, 0x3b9]),
  (0x1f9d, [0x1f25, 0x3b9]), (0x1f9e, [0x1f26, 0x3b9]), (0x1f9f, [0x1f27, 0x3b9]),
  (0x1fa0, [0x1f60, 0x3b9]), (0x1fa1, [0x1f61, 0x3b9]), (0x1fa2, [0x1f62, 0x3b9]),
  (0x1fa3, [0x1f63, 0x3b9]), (0x1fa4, [0x1f64, 0x3b9]), (0x1fa5, [0x1f65, 0x3b9]),
  (0x1fa6, [0x1f66, 0x3b9]), (0x1fa7, [0x1f67, 0x3b9]), (0x1fa8, [0x1f60, 0x3b9]),
  (0x1fa9, [0x1f61, 0x3b9]), (0x1faa, [0x1f62, 0x3b9]), (0x1fab, [0x1f63, 0x3b9]),
  (0x1fac, [0x1f64, 0x3b9]), (0x1fad, [0x1f65, 0x3b9]), (0x1fae, [0x1f66, 0x3b9]),
  (0x1faf, [0x1f67, 0x3b9]), (0x1fb2, [0x1f70, 0x3b9]), (0x1fb3, [0x3b1, 0x3b9]),
  (0x1fb4, [0x3ac, 0x3b9]), (0x1fb7, [0x1fb6, 0x3b9]), (0x1fbc, [0x3b1, 0x3b9]),
  (0x1fbd, [0x20, 0x313]), (0x1fbf, [0x20, 0x313]), (0x1fc0, [0x20, 0x342]),
  (0x1fc1, [0x20, 0x308, 0x342]), (0x1fc2, [0x1f74, 0x3b9]), (0x1fc3, [0x3b7, 0x3b9]),
  (0x1fc4, [0x3ae, 0x3b9]), (0x1fc7, [0x1fc6, 0x3b9]), (0x1fcc, [0x3b7, 0x3b9]),
  (0x1fcd, [0x20, 0x313, 0x300]), (0x1fce, [0x20, 0x313, 0x301]), (0x1fcf, [0x20, 0x313, 0x342]),
  (0x1fdd, [0x20, 0x314, 0x300]), (0x1fde, [0x20, 0x314, 0x301]), (0x1fdf, [0x20, 0x314, 0x342]),
  (0x1fed, [0x20, 0x308, 0x300]), (0x1fee, [0x20, 0x308, 0x301]), (0x1ff2, [0x1f7c, 0x3b9]),
  (0x1ff3, [0x3c9, 0x3b9]), (0x1ff4, [0x3ce, 0x3b9]), (0x1ff7, [0x1ff6, 0x3b9]),
  (0x1ffc, [0x3c9, 0x3b9]), (0x1ffd, [0x20, 0x301]), (0x1ffe, [0x20, 0x314]),
  (0x2017, [0x20, 0x333]), (0x2033, [0x2032, 0x2032]), (0x2034, [0x2032, 0x2032, 0x2032]),
  (0x2036, [0x2035, 0x2035]), (0x2037, [0x2035, 0x2035, 0x2035]), (0x203c, [0x21, 0x21]),
  (0x203e, [0x20, 0x305]), (0x2047, [0x3f, 0x3f]), (0x2048, [0x3f, 0x21]), (0x2049, [0x21, 0x3f]),
  (0x2057, [0x2032, 0x2032, 0x2032, 0x2032]), (0x20a8, [0x72, 0x73]), (0x2100, [0x61, 0x2f, 0x63]),
  (0x2101, [0x61, 0x2f, 0x73]), (0x2103, [0xb0, 0x63]), (0x2105, [0x63, 0x2f, 0x6f]),
  (0x2106, [0x63, 0x2f, 0x75]), (0x2109, [0xb0, 0x66]), (0x2116, [0x6e, 0x6f]),
  (0x2120, [0x73, 0x6d]), (0x2121, [0x74, 0x65, 0x6c]), (0x2122, [0x74, 0x6d]),
  (0x213b, [0x66, 0x61, 0x78]), (0x2150, [0x31, 0x2044, 0x37]), (0x2151, [0x31, 0x2044, 0x39]),
  (0x2152, [0x31, 0x2044, 0x31, 0x30]), (0x2153, [0x31, 0x2044, 0x33]),
  (0x2154, [0x32, 0x2044, 0x33]), (0x2155, [0x31, 0x2044, 0x35]), (0x2156, [0x32, 0x2044, 0x35]),
  (0x2157, [0x33, 0x2044, 0x35]), (0x2158, [0x34, 0x2044, 0x35]), (0x2159, [0x31, 0x2044, 0x36]),
  (0x215a, [0x35, 0x2044, 0x36]), (0x215b, [0x31, 0x2044, 0x38]), (0x215c, [0x33, 0x2044, 0x38]),
  (0x215d, [0x35, 0x2044, 0x38]), (0x215e, [0x37, 0x2044, 0x38]), (0x215f, [0x31, 0x2044]),
  (0x2161, [0x69, 0x69]), (0x2162, [0x69, 0x69, 0x69]), (0x2163, [0x69, 0x76]),
  (0x2165, [0x76, 0x69]), (0x2166, [0x76, 0x69, 0x69]), (0x2167, [0x76, 0x69, 0x69, 0x69]),
  (0x2168, [0x69, 0x78]), (0x216a, [0x78, 0x69]), (0x216b, [0x78, 0x69, 0x69]),
  (0x2171, [0x69, 0x69]), (0x2172, [0x69, 0x69, 0x69]), (0x2173, [0x69, 0x76]),
  (0x2175, [0x76, 0x69]), (0x2176, [0x76, 0x69, 0x69]), (0x2177, [0x76, 0x69, 0x69, 0x69]),
  (0x2178, [0x69, 0x78]), (0x217a, [0x78, 0x69]), (0x217b, [0x78, 0x69, 0x69]),
  (0x2189, [0x30, 0x2044, 0x33]), (0x222c, [0x222b, 0x222b]), (0x222d, [0x222b, 0x222b, 0x222b]),
  (0x222f, [0x222e, 0x222e]), (0x2230, [0x222e, 0x222e, 0x222e]), (0x2469, [0x31, 0x30]),
  (0x246a, [0x31, 0x31]), (0x246b, [0x31, 0x32]), (0x246c, [0x31, 0x33]), (0x246d, [0x31, 0x34]),
  (0x246e, [0x31, 0x35]), (0x246f, [0x31, 0x36]), (0x2470, [0x31, 0x37]), (0x2471, [0x31, 0x38]),
  (0x2472, [0x31, 0x39]), (0x2473, [0x32, 0x30]), (0x2474, [0x28, 0x31, 0x29]),
  (0x2475, [0x28, 0x32, 0x29]), (0x2476, [0x28, 0x33, 0x29]), (0x2477, [0x28, 0x34, 0x29]),
  (0x2478, [0x28, 0x35, 0x29]), (0x2479, [0x28, 0x36, 0x29]), (0x247a, [0x28, 0x37, 0x29]),
  (0x247b, [0x28, 0x38, 0x29]), (0x247c, [0x28, 0x39, 0x29]), (0x247d, [0x28, 0x31, 0x30, 0x29]),
  (0x247e, [0x28, 0x31, 0x31, 0x29]), (0x247f, [0x28, 0x31, 0x32, 0x29]),
  (0x2480, [0x28, 0x31, 0x33, 0x29]), (0x2481, [0x28, 0x31, 0x34, 0x29]),
  (0x2482, [0x28, 0x31, 0x35, 0x29]), (0x2483, [0x28, 0x31, 0x36, 0x29]),
  (0x2484, [0x28, 0x31, 0x37, 0x29]), (0x2485, [0x28, 0x31, 0x38, 0x29]),
  (0x2486, [0x28, 0x31, 0x39, 0x29]), (0x2487, [0x28, 0x32, 0x30, 0x29]),
  (0x249c, [0x28, 0x61, 0x29]), (0x249d, [0x28, 0x62, 0x29]), (0x249e, [0x28, 0x63, 0x29]),
  (0x249f, [0x28, 0x64, 0x29]), (0x24a0, [0x28, 0x65, 0x29]), (0x24a1, [0x28, 0x66, 0x29]),
  (0x24a2, [0x28, 0x67, 0x29]), (0x24a3, [0x28, 0x68, 0x29]), (0x24a4, [0x28, 0x69, 0x29]),
  (0x24a5, [0x28, 0x6a, 0x29]), (0x24a6, [0x28, 0x6b, 0x29]), (0x24a7, [0x28, 0x6c, 0x29]),
  (0x24a8, [0x28, 0x6d, 0x29]), (0x24a9, [0x28, 0x6e, 0x29]), (0x24aa, [0x28, 0x6f, 0x29]),
  (0x24ab, [0x28, 0x70, 0x29]), (0x24ac, [0x28, 0x71, 0x29]), (0x24ad, [0x28, 0x72, 0x29]),
  (0x24ae, [0x28, 0x73, 0x29]), (0x24af, [0x28, 0x74, 0x29]), (0x24b0, [0x28, 0x75, 0x29]),
  (0x24b1, [0x28, 0x76, 0x29]), (0x24b2, [0x28, 0x77, 0x29]), (0x24b3, [0x28, 0x78, 0x29]),
  (0x24b4, [0x28, 0x79, 0x29]), (0x24b5, [0x28, 0x7a, 0x29]),
  (0x2a0c, [0x222b, 0x222b, 0x222b, 0x222b]), (0x2a74, [0x3a, 0x3a, 0x3d]), (0x2a75, [0x3d, 0x3d]),
  (0x2a76, [0x3d, 0x3d, 0x3d]), (0x2adc, [0x2add, 0x338]), (0x309b, [0x20, 0x3099]),
  (0x309c, [0x20, 0x309a]), (0x309f, [0x3088, 0x308a]), (0x30ff, [0x30b3, 0x30c8])]

def squareExpansions : List (Nat × List Nat) := [
  (0x3200, [0x28, 0x1100, 0x29]), (0x3201, [0x28, 0x1102, 0x29]), (0x3202, [0x28, 0x1103, 0x29]),
  (0x3203, [0x28, 0x1105, 0x29]), (0x3204, [0x28, 0x1106, 0x29]), (0x3205, [0x28, 0x1107, 0x29]),
  (0x3206, [0x28, 0x1109, 0x29]), (0x3207, [0x28, 0x110b, 0x29]), (0x3208, [0x28, 0x110c, 0x29]),
  (0x3209, [0x28, 0x110e, 0x29]), (0x320a, [0x28, 0x110f, 0x29]), (0x320b, [0x28, 0x1110, 0x29]),
  (0x320c, [0x28, 0x1111, 0x29]), (0x320d, [0x28, 0x1112, 0x29]), (0x320e, [0x28, 0xac00, 0x29]),
  (0x320f, [0x28, 0xb098, 0x29]), (0x3210, [0x28, 0xb2e4, 0x29]), (0x3211, [0x28, 0xb77c, 0x29]),
  (0x3212, [0x28, 0xb9c8, 0x29]), (0x3213, [0x28, 0xbc14, 0x29]), (0x3214, [0x28, 0xc0ac, 0x29]),
  (0x3215, [0x28, 0xc544, 0x29]), (0x3216, [0x28, 0xc790, 0x29]), (0x3217, [0x28, 0xcc28, 0x29]),
  (0x3218, [0x28, 0xce74, 0x29]), (0x3219, [0x28, 0xd0c0, 0x29]), (0x321a, [0x28, 0xd30c, 0x29]),
  (0x321b, [0x28, 0xd558, 0x29]), (0x321c, [0x28, 0xc8fc, 0x29]),
  (0x321d, [0x28, 0xc624, 0xc804, 0x29]), (0x321e, [0x28, 0xc624, 0xd6c4, 0x29]),
  (0x3220, [0x28, 0x4e00, 0x29]), (0x3221, [0x28, 0x4e8c, 0x29]), (0x3222, [0x28, 0x4e09, 0x29]),
  (0x3223, [0x28, 0x56db, 0x29]), (0x3224, [0x28, 0x4e94, 0x29]), (0x3225, [0x28, 0x516d, 0x29]),
  (0x3226, [0x28, 0x4e03, 0x29]), (0x3227, [0x28, 0x516b, 0x29]), (0x3228, [0x28, 0x4e5d, 0x29]),
  (0x3229, [0x28, 0x5341, 0x29]), (0x322a, [0x28, 0x6708, 0x29]), (0x322b, [0x28, 0x706b, 0x29]),
  (0x322c, [0x28, 0x6c34, 0x29]), (0x322d, [0x28, 0x6728, 0x29]), (0x322e, [0x28, 0x91d1, 0x29]),
  (0x322f, [0x28, 0x571f, 0x29]), (0x3230, [0x28, 0x65e5, 0x29]), (0x3231, [0x28, 0x682a, 0x29]),
  (0x3232, [0x28, 0x6709, 0x29]), (0x3233, [0x28, 0x793e, 0x29]), (0x3234, [0x28, 0x540d, 0x29]),
  (0x3235, [0x28, 0x7279, 0x29]), (0x3236, [0x28, 0x8ca1, 0x29]), (0x3237, [0x28, 0x795d, 0x29]),
  (0x3238, [0x28, 0x52b4, 0x29]), (0x3239, [0x28, 0x4ee3, 0x29]), (0x323a, [0x28, 0x547c, 0x29]),
  (0x323b, [0x28, 0x5b66, 0x29]), (0x323c, [0x28, 0x76e3, 0x29]), (0x323d, [0x28, 0x4f01, 0x29]),
  (0x323e, [0x28, 0x8cc7, 0x29]), (0x323f, [0x28, 0x5354, 0x29]), (0x3240, [0x28, 0x796d, 0x29]),
  (0x3241, [0x28, 0x4f11, 0x29]), (0x3242, [0x28, 0x81ea, 0x29]), (0x3243, [0x28, 0x81f3, 0x29]),
  (0x3250, [0x70, 0x74, 0x65]), (0x3251, [0x32, 0x31]), (0x3252, [0x32, 0x32]),
  (0x3253, [0x32, 0x33]), (0x3254, [0x32, 0x34]), (0x3255, [0x32, 0x35]), (0x3256, [0x32, 0x36]),
  (0x3257, [0x32, 0x37]), (0x3258, [0x32, 0x38]), (0x3259, [0x32, 0x39]), (0x325a, [0x33, 0x30]),
  (0x325b, [0x33, 0x31]), (0x325c, [0x33, 0x32]), (0x325d, [0x33, 0x33]), (0x325e, [0x33, 0x34]),
  (0x325f, [0x33, 0x35]), (0x327c, [0xcc38, 0xace0]), (0x327d, [0xc8fc, 0xc758]),
  (0x32b1, [0x33, 0x36]), (0x32b2, [0x33, 0x37]), (0x32b3, [0x33, 0x38]), (0x32b4, [0x33, 0x39]),
  (0x32b5, [0x34, 0x30]), (0x32b6, [0x34, 0x31]), (0x32b7, [0x34, 0x32]), (0x32b8, [0x34, 0x33]),
  (0x32b9, [0x34, 0x34]), (0x32ba, [0x34, 0x35]), (0x32bb, [0x34, 0x36]), (0x32bc, [0x34, 0x37]),
  (0x32bd, [0x34, 0x38]), (0x32be, [0x34, 0x39]), (0x32bf, [0x35, 0x30]), (0x32c0, [0x31, 0x6708]),
  (0x32c1, [0x32, 0x6708]), (0x32c2, [0x33, 0x6708]), (0x32c3, [0x34, 0x6708]),
  (0x32c4, [0x35, 0x6708]), (0x32c5, [0x36, 0x6708]), (0x32c6, [0x37, 0x6708]),
  (0x32c7, [0x38, 0x6708]), (0x32c8, [0x39, 0x6708]), (0x32c9, [0x31, 0x30, 0x6708]),
  (0x32ca, [0x31, 0x31, 0x6708]), (0x32cb, [0x31, 0x32, 0x6708]), (0x32cc, [0x68, 0x67]),
  (0x32cd, [0x65, 0x72, 0x67]), (0x32ce, [0x65, 0x76]), (0x32cf, [0x6c, 0x74, 0x64]),
  (0x32ff, [0x4ee4, 0x548c]), (0x3300, [0x30a2, 0x30d1, 0x30fc, 0x30c8]),
  (0x3301, [0x30a2, 0x30eb, 0x30d5, 0x30a1]), (0x3302, [0x30a2, 0x30f3, 0x30da, 0x30a2]),
  (0x3303, [0x30a2, 0x30fc, 0x30eb]), (0x3304, [0x30a4, 0x30cb, 0x30f3, 0x30b0]),
  (0x3305, [0x30a4, 0x30f3, 0x30c1]), (0x3306, [0x30a6, 0x30a9, 0x30f3]),
  (0x3307, [0x30a8, 0x30b9, 0x30af, 0x30fc, 0x30c9]), (0x3308, [0x30a8, 0x30fc, 0x30ab, 0x30fc]),
  (0x3309, [0x30aa, 0x30f3, 0x30b9]), (0x330a, [0x30aa, 0x30fc, 0x30e0]),
  (0x330b, [0x30ab, 0x30a4, 0x30ea]), (0x330c, [0x30ab, 0x30e9, 0x30c3, 0x30c8]),
  (0x330d, [0x30ab, 0x30ed, 0x30ea, 0x30fc]), (0x330e, [0x30ac, 0x30ed, 0x30f3]),
  (0x330f, [0x30ac, 0x30f3, 0x30de]), (0x3310, [0x30ae, 0x30ac]),
  (0x3311, [0x30ae, 0x30cb, 0x30fc]), (0x3312, [0x30ad, 0x30e5, 0x30ea, 0x30fc]),
  (0x3313, [0x30ae, 0x30eb, 0x30c0, 0x30fc]), (0x3314, [0x30ad, 0x30ed]),
  (0x3315, [0x30ad, 0x30ed, 0x30b0, 0x30e9, 0x30e0]),
  (0x3316, [0x30ad, 0x30ed, 0x30e1, 0x30fc, 0x30c8, 0x30eb]),
  (0x3317, [0x30ad, 0x30ed, 0x30ef, 0x30c3, 0x30c8]), (0x3318, [0x30b0, 0x30e9, 0x30e0]),
  (0x3319, [0x30b0, 0x30e9, 0x30e0, 0x30c8, 0x30f3]),
  (0x331a, [0x30af, 0x30eb, 0x30bc, 0x30a4, 0x30ed]), (0x331b, [0x30af, 0x30ed, 0x30fc, 0x30cd]),
  (0x331c, [0x30b1, 0x30fc, 0x30b9]), (0x331d, [0x30b3, 0x30eb, 0x30ca]),
  (0x331e, [0x30b3, 0x30fc, 0x30dd]), (0x331f, [0x30b5, 0x30a4, 0x30af, 0x30eb]),
  (0x3320, [0x30b5, 0x30f3, 0x30c1, 0x30fc, 0x30e0]), (0x3321, [0x30b7, 0x30ea, 0x30f3, 0x30b0]),
  (0x3322, [0x30bb, 0x30f3, 0x30c1]), (0x3323, [0x30bb, 0x30f3, 0x30c8]),
  (0x3324, [0x30c0, 0x30fc, 0x30b9]), (0x3325, [0x30c7, 0x30b7]), (0x3326, [0x30c9, 0x30eb]),
  (0x3327, [0x30c8, 0x30f3]), (0x3328, [0x30ca, 0x30ce]), (0x3329, [0x30ce, 0x30c3, 0x30c8]),
  (0x332a, [0x30cf, 0x30a4, 0x30c4]), (0x332b, [0x30d1, 0x30fc, 0x30bb, 0x30f3, 0x30c8]),
  (0x332c, [0x30d1, 0x30fc, 0x30c4]), (0x332d, [0x30d0, 0x30fc, 0x30ec, 0x30eb]),
  (0x332e, [0x30d4, 0x30a2, 0x30b9, 0x30c8, 0x30eb]), (0x332f, [0x30d4, 0x30af, 0x30eb]),
  (0x3330, [0x30d4, 0x30b3]), (0x3331, [0x30d3, 0x30eb]),
  (0x3332, [0x30d5, 0x30a1, 0x30e9, 0x30c3, 0x30c9]), (0x3333, [0x30d5, 0x30a3, 0x30fc, 0x30c8]),
  (0x3334, [0x30d6, 0x30c3, 0x30b7, 0x30a7, 0x30eb]), (0x3335, [0x30d5, 0x30e9, 0x30f3]),
  (0x3336, [0x30d8, 0x30af, 0x30bf, 0x30fc, 0x30eb]), (0x3337, [0x30da, 0x30bd]),
  (0x3338, [0x30da, 0x30cb, 0x30d2]), (0x3339, [0x30d8, 0x30eb, 0x30c4]),
  (0x333a, [0x30da, 0x30f3, 0x30b9]), (0x333b, [0x30da, 0x30fc, 0x30b8]),
  (0x333c, [0x30d9, 0x30fc, 0x30bf]), (0x333d, [0x30dd, 0x30a4, 0x30f3, 0x30c8]),
  (0x333e, [0x30dc, 0x30eb, 0x30c8]), (0x333f, [0x30db, 0x30f3]),
  (0x3340, [0x30dd, 0x30f3, 0x30c9]), (0x3341, [0x30db, 0x30fc, 0x30eb]),
  (0x3342, [0x30db, 0x30fc, 0x30f3]), (0x3343, [0x30de, 0x30a4, 0x30af, 0x30ed]),
  (0x3344, [0x30de, 0x30a4, 0x30eb]), (0x3345, [0x30de, 0x30c3, 0x30cf]),
  (0x3346, [0x30de, 0x30eb, 0x30af]), (0x3347, [0x30de, 0x30f3, 0x30b7, 0x30e7, 0x30f3]),
  (0x3348, [0x30df, 0x30af, 0x30ed, 0x30f3]), (0x3349, [0x30df, 0x30ea]),
  (0x334a, [0x30df, 0x30ea, 0x30d0, 0x30fc, 0x30eb]), (0x334b, [0x30e1, 0x30ac]),
  (0x334c, [0x30e1, 0x30ac, 0x30c8, 0x30f3]), (0x334d, [0x30e1, 0x30fc, 0x30c8, 0x30eb]),
  (0x334e, [0x30e4, 0x30fc, 0x30c9]), (0x334f, [0x30e4, 0x30fc, 0x30eb]),
  (0x3350, [0x30e6, 0x30a2, 0x30f3]), (0x3351, [0x30ea, 0x30c3, 0x30c8, 0x30eb]),
  (0x3352, [0x30ea, 0x30e9]), (0x3353, [0x30eb, 0x30d4, 0x30fc]),
  (0x3354, [0x30eb, 0x30fc, 0x30d6, 0x30eb]), (0x3355, [0x30ec, 0x30e0]),
  (0x3356, [0x30ec, 0x30f3, 0x30c8, 0x30b2, 0x30f3]), (0x3357, [0x30ef, 0x30c3, 0x30c8]),
  (0x3358, [0x30, 0x70b9]), (0x3359, [0x31, 0x70b9]), (0x335a, [0x32, 0x70b9]),
  (0x335b, [0x33, 0x70b9]), (0x335c, [0x34, 0x70b9]), (0x335d, [0x35, 0x70b9]),
  (0x335e, [0x36, 0x70b9]), (0x335f, [0x37, 0x70b9]), (0x3360, [0x38, 0x70b9]),
  (0x3361, [0x39, 0x70b9]), (0x3362, [0x31, 0x30, 0x70b9]), (0x3363, [0x31, 0x31, 0x70b9]),
  (0x3364, [0x31, 0x32, 0x70b9]), (0x3365, [0x31, 0x33, 0x70b9]), (0x3366, [0x31, 0x34, 0x70b9]),
  (0x3367, [0x31, 0x35, 0x70b9]), (0x3368, [0x31, 0x36, 0x70b9]), (0x3369, [0x31, 0x37, 0x70b9]),
  (0x336a, [0x31, 0x38, 0x70b9]), (0x336b, [0x31, 0x39, 0x70b9]), (0x336c, [0x32, 0x30, 0x70b9]),
  (0x336d, [0x32, 0x31, 0x70b9]), (0x336e, [0x32, 0x32, 0x70b9]), (0x336f, [0x32, 0x33, 0x70b9]),
  (0x3370, [0x32, 0x34, 0x70b9]), (0x3371, [0x68, 0x70, 0x61]), (0x3372, [0x64, 0x61]),
  (0x3373, [0x61, 0x75]), (0x3374, [0x62, 0x61, 0x72]), (0x3375, [0x6f, 0x76]),
  (0x3376, [0x70, 0x63]), (0x3377, [0x64, 0x6d]), (0x3378, [0x64, 0x6d, 0x32]),
  (0x3379, [0x64, 0x6d, 0x33]), (0x337a, [0x69, 0x75]), (0x337b, [0x5e73, 0x6210]),
  (0x337c, [0x662d, 0x548c]), (0x337d, [0x5927, 0x6b63]), (0x337e, [0x660e, 0x6cbb]),
  (0x337f, [0x682a, 0x5f0f, 0x4f1a, 0x793e]), (0x3380, [0x70, 0x61]), (0x3381, [0x6e, 0x61]),
  (0x3382, [0x3bc, 0x61]), (0x3383, [0x6d, 0x61]), (0x3384, [0x6b, 0x61]), (0x3385, [0x6b, 0x62]),
  (0x3386, [0x6d, 0x62]), (0x3387, [0x67, 0x62]), (0x3388, [0x63, 0x61, 0x6c]),
  (0x3389, [0x6b, 0x63, 0x61, 0x6c]), (0x338a, [0x70, 0x66]), (0x338b, [0x6e, 0x66]),
  (0x338c, [0x3bc, 0x66]), (0x338d, [0x3bc, 0x67]), (0x338e, [0x6d, 0x67]), (0x338f, [0x6b, 0x67]),
  (0x3390, [0x68, 0x7a]), (0x3391, [0x6b, 0x68, 0x7a]), (0x3392, [0x6d, 0x68, 0x7a]),
  (0x3393, [0x67, 0x68, 0x7a]), (0x3394, [0x74, 0x68, 0x7a]), (0x3395, [0x3bc, 0x6c]),
  (0x3396, [0x6d, 0x6c]), (0x3397, [0x64, 0x6c]), (0x3398, [0x6b, 0x6c]), (0x3399, [0x66, 0x6d]),
  (0x339a, [0x6e, 0x6d]), (0x339b, [0x3bc, 0x6d]), (0x339c, [0x6d, 0x6d]), (0x339d, [0x63, 0x6d]),
  (0x339e, [0x6b, 0x6d]), (0x339f, [0x6d, 0x6d, 0x32]), (0x33a0, [0x63, 0x6d, 0x32]),
  (0x33a1, [0x6d, 0x32]), (0x33a2, [0x6b, 0x6d, 0x32]), (0x33a3, [0x6d, 0x6d, 0x33]),
  (0x33a4, [0x63, 0x6d, 0x33]), (0x33a5, [0x6d, 0x33]), (0x33a6, [0x6b, 0x6d, 0x33]),
  (0x33a7, [0x6d, 0x2215, 0x73]), (0x33a8, [0x6d, 0x2215, 0x73, 0x32]), (0x33a9, [0x70, 0x61]),
  (0x33aa, [0x6b, 0x70, 0x61]), (0x33ab, [0x6d, 0x70, 0x61]), (0x33ac, [0x67, 0x70, 0x61]),
  (0x33ad, [0x72, 0x61, 0x64]), (0x33ae, [0x72, 0x61, 0x64, 0x2215, 0x73]),
  (0x33af, [0x72, 0x61, 0x64, 0x2215, 0x73, 0x32]), (0x33b0, [0x70, 0x73]), (0x33b1, [0x6e, 0x73]),
  (0x33b2, [0x3bc, 0x73]), (0x33b3, [0x6d, 0x73]), (0x33b4, [0x70, 0x76]), (0x33b5, [0x6e, 0x76]),
  (0x33b6, [0x3bc, 0x76]), (0x33b7, [0x6d, 0x76]), (0x33b8, [0x6b, 0x76]), (0x33b9, [0x6d, 0x76]),
  (0x33ba, [0x70, 0x77]), (0x33bb, [0x6e, 0x77]), (0x33bc, [0x3bc, 0x77]), (0x33bd, [0x6d, 0x77]),
  (0x33be, [0x6b, 0x77]), (0x33bf, [0x6d, 0x77]), (0x33c0, [0x6b, 0x3c9]), (0x33c1, [0x6d, 0x3c9]),
  (0x33c3, [0x62, 0x71]), (0x33c4, [0x63, 0x63]), (0x33c5, [0x63, 0x64]),
  (0x33c6, [0x63, 0x2215, 0x6b, 0x67]), (0x33c8, [0x64, 0x62]), (0x33c9, [0x67, 0x79]),
  (0x33ca, [0x68, 0x61]), (0x33cb, [0x68, 0x70]), (0x33cc, [0x69, 0x6e]), (0x33cd, [0x6b, 0x6b]),
  (0x33ce, [0x6b, 0x6d]), (0x33cf, [0x6b, 0x74]), (0x33d0, [0x6c, 0x6d]), (0x33d1, [0x6c, 0x6e]),
  (0x33d2, [0x6c, 0x6f, 0x67]), (0x33d3, [0x6c, 0x78]), (0x33d4, [0x6d, 0x62]),
  (0x33d5, [0x6d, 0x69, 0x6c]), (0x33d6, [0x6d, 0x6f, 0x6c]), (0x33d7, [0x70, 0x68]),
  (0x33d9, [0x70, 0x70, 0x6d]), (0x33da, [0x70, 0x72]), (0x33db, [0x73, 0x72]),
  (0x33dc, [0x73, 0x76]), (0x33dd, [0x77, 0x62]), (0x33de, [0x76, 0x2215, 0x6d]),
  (0x33df, [0x61, 0x2215, 0x6d]), (0x33e0, [0x31, 0x65e5]), (0x33e1, [0x32, 0x65e5]),
  (0x33e2, [0x33, 0x65e5]), (0x33e3, [0x34, 0x65e5]), (0x33e4, [0x35, 0x65e5]),
  (0x33e5, [0x36, 0x65e5]), (0x33e6, [0x37, 0x65e5]), (0x33e7, [0x38, 0x65e5]),
  (0x33e8, [0x39, 0x65e5]), (0x33e9, [0x31, 0x30, 0x65e5]), (0x33ea, [0x31, 0x31, 0x65e5]),
  (0x33eb, [0x31, 0x32, 0x65e5]), (0x33ec, [0x31, 0x33, 0x65e5]), (0x33ed, [0x31, 0x34, 0x65e5]),
  (0x33ee, [0x31, 0x35, 0x65e5]), (0x33ef, [0x31, 0x36, 0x65e5]), (0x33f0, [0x31, 0x37, 0x65e5]),
  (0x33f1, [0x31, 0x38, 0x65e5]), (0x33f2, [0x31, 0x39, 0x65e5]), (0x33f3, [0x32, 0x30, 0x65e5]),
  (0x33f4, [0x32, 0x31, 0x65e5]), (0x33f5, [0x32, 0x32, 0x65e5]), (0x33f6, [0x32, 0x33, 0x65e5]),
  (0x33f7, [0x32, 0x34, 0x65e5]), (0x33f8, [0x32, 0x35, 0x65e5]), (0x33f9, [0x32, 0x36, 0x65e5]),
  (0x33fa, [0x32, 0x37, 0x65e5]), (0x33fb, [0x32, 0x38, 0x65e5]), (0x33fc, [0x32, 0x39, 0x65e5]),
  (0x33fd, [0x33, 0x30, 0x65e5]), (0x33fe, [0x33, 0x31, 0x65e5]), (0x33ff, [0x67, 0x61, 0x6c])]

def formExpansions : List (Nat × List Nat) := [
  (0xfb00, [0x66, 0x66]), (0xfb01, [0x66, 0x69]), (0xfb02, [0x66, 0x6c]),
  (0xfb03, [0x66, 0x66, 0x69]), (0xfb04, [0x66, 0x66, 0x6c]), (0xfb05, [0x73, 0x74]),
  (0xfb06, [0x73, 0x74]), (0xfb13, [0x574, 0x576]), (0xfb14, [0x574, 0x565]),
  (0xfb15, [0x574, 0x56b]), (0xfb16, [0x57e, 0x576]), (0xfb17, [0x574, 0x56d]),
  (0xfb1d, [0x5d9, 0x5b4]), (0xfb1f, [0x5f2, 0x5b7]), (0xfb2a, [0x5e9, 0x5c1]),
  (0xfb2b, [0x5e9, 0x5c2]), (0xfb2c, [0x5e9, 0x5bc, 0x5c1]), (0xfb2d, [0x5e9, 0x5bc, 0x5c2]),
  (0xfb2e, [0x5d0, 0x5b7]), (0xfb2f, [0x5d0, 0x5b8]), (0xfb30, [0x5d0, 0x5bc]),
  (0xfb31, [0x5d1, 0x5bc]), (0xfb32, [0x5d2, 0x5bc]), (0xfb33, [0x5d3, 0x5bc]),
  (0xfb34, [0x5d4, 0x5bc]), (0xfb35, [0x5d5, 0x5bc]), (0xfb36, [0x5d6, 0x5bc]),
  (0xfb38, [0x5d8, 0x5bc]), (0xfb39, [0x5d9, 0x5bc]), (0xfb3a, [0x5da, 0x5bc]),
  (0xfb3b, [0x5db, 0x5bc]), (0xfb3c, [0x5dc, 0x5bc]), (0xfb3e, [0x5de, 0x5bc]),
  (0xfb40, [0x5e0, 0x5bc]), (0xfb41, [0x5e1, 0x5bc]), (0xfb43, [0x5e3, 0x5bc]),
  (0xfb44, [0x5e4, 0x5bc]), (0xfb46, [0x5e6, 0x5bc]), (0xfb47, [0x5e7, 0x5bc]),
  (0xfb48, [0x5e8, 0x5bc]), (0xfb49, [0x5e9, 0x5bc]), (0xfb4a, [0x5ea, 0x5bc]),
  (0xfb4b, [0x5d5, 0x5b9]), (0xfb4c, [0x5d1, 0x5bf]), (0xfb4d, [0x5db, 0x5bf]),
  (0xfb4e, [0x5e4, 0x5bf]), (0xfb4f, [0x5d0, 0x5dc]), (0xfbdd, [0x6c7, 0x674]),
  (0xfbea, [0x626, 0x627]), (0xfbeb, [0x626, 0x627]), (0xfbec, [0x626, 0x6d5]),
  (0xfbed, [0x626, 0x6d5]), (0xfbee, [0x626, 0x648]), (0xfbef, [0x626, 0x648]),
  (0xfbf0, [0x626, 0x6c7]), (0xfbf1, [0x626, 0x6c7]), (0xfbf2, [0x626, 0x6c6]),
  (0xfbf3, [0x626, 0x6c6]), (0xfbf4, [0x626, 0x6c8]), (0xfbf5, [0x626, 0x6c8]),
  (0xfbf6, [0x626, 0x6d0]), (0xfbf7, [0x626, 0x6d0]), (0xfbf8, [0x626, 0x6d0]),
  (0xfbf9, [0x626, 0x649]), (0xfbfa, [0x626, 0x649]), (0xfbfb, [0x626, 0x649]),
  (0xfc00, [0x626, 0x62c]), (0xfc01, [0x626, 0x62d]), (0xfc02, [0x626, 0x645]),
  (0xfc03, [0x626, 0x649]), (0xfc04, [0x626, 0x64a]), (0xfc05, [0x628, 0x62c]),
  (0xfc06, [0x628, 0x62d]), (0xfc07, [0x628, 0x62e]), (0xfc08, [0x628, 0x645]),
  (0xfc09, [0x628, 0x649]), (0xfc0a, [0x628, 0x64a]), (0xfc0b, [0x62a, 0x62c]),
  (0xfc0c, [0x62a, 0x62d]), (0xfc0d, [0x62a, 0x62e]), (0xfc0e, [0x62a, 0x645]),
  (0xfc0f, [0x62a, 0x649]), (0xfc10, [0x62a, 0x64a]), (0xfc11, [0x62b, 0x62c]),
  (0xfc12, [0x62b, 0x645]), (0xfc13, [0x62b, 0x649]), (0xfc14, [0x62b, 0x64a]),
  (0xfc15, [0x62c, 0x62d]), (0xfc16, [0x62c, 0x645]), (0xfc17, [0x62d, 0x62c]),
  (0xfc18, [0x62d, 0x645]), (0xfc19, [0x62e, 0x62c]), (0xfc1a, [0x62e, 0x62d]),
  (0xfc1b, [0x62e, 0x645]), (0xfc1c, [0x633, 0x62c]), (0xfc1d, [0x633, 0x62d]),
  (0xfc1e, [0x633, 0x62e]), (0xfc1f, [0x633, 0x645]), (0xfc20, [0x635, 0x62d]),
  (0xfc21, [0x635, 0x645]), (0xfc22, [0x636, 0x62c]), (0xfc23, [0x636, 0x62d]),
  (0xfc24, [0x636, 0x62e]), (0xfc25, [0x636, 0x645]), (0xfc26, [0x637, 0x62d]),
  (0xfc27, [0x637, 0x645]), (0xfc28, [0x638, 0x645]), (0xfc29, [0x639, 0x62c]),
  (0xfc2a, [0x639, 0x645]), (0xfc2b, [0x63a, 0x62c]), (0xfc2c, [0x63a, 0x645]),
  (0xfc2d, [0x641, 0x62c]), (0xfc2e, [0x641, 0x62d]), (0xfc2f, [0x641, 0x62e]),
  (0xfc30, [0x641, 0x645]), (0xfc31, [0x641, 0x649]), (0xfc32, [0x641, 0x64a]),
  (0xfc33, [0x642, 0x62d]), (0xfc34, [0x642, 0x645]), (0xfc35, [0x642, 0x649]),
  (0xfc36, [0x642, 0x64a]), (0xfc37, [0x643, 0x627]), (0xfc38, [0x643, 0x62c]),
  (0xfc39, [0x643, 0x62d]), (0xfc3a, [0x643, 0x62e]), (0xfc3b, [0x643, 0x644]),
  (0xfc3c, [0x643, 0x645]), (0xfc3d, [0x643, 0x649]), (0xfc3e, [0x643, 0x64a]),
  (0xfc3f, [0x644, 0x62c]), (0xfc40, [0x644, 0x62d]), (0xfc41, [0x644, 0x62e]),
  (0xfc42, [0x644, 0x645]), (0xfc43, [0x644, 0x649]), (0xfc44, [0x644, 0x64a]),
  (0xfc45, [0x645, 0x62c]), (0xfc46, [0x645, 0x62d]), (0xfc47, [0x645, 0x62e]),
  (0xfc48, [0x645, 0x645]), (0xfc49, [0x645, 0x649]), (0xfc4a, [0x645, 0x64a]),
  (0xfc4b, [0x646, 0x62c]), (0xfc4c, [0x646, 0x62d]), (0xfc4d, [0x646, 0x62e]),
  (0xfc4e, [0x646, 0x645]), (0xfc4f, [0x646, 0x649]), (0xfc50, [0x646, 0x64a]),
  (0xfc51, [0x647, 0x62c]), (0xfc52, [0x647, 0x645]), (0xfc53, [0x647, 0x649]),
  (0xfc54, [0x647, 0x64a]), (0xfc55, [0x64a, 0x62c]), (0xfc56, [0x64a, 0x62d]),
  (0xfc57, [0x64a, 0x62e]), (0xfc58, [0x64a, 0x645]), (0xfc59, [0x64a, 0x649]),
  (0xfc5a, [0x64a, 0x64a]), (0xfc5b, [0x630, 0x670]), (0xfc5c, [0x631, 0x670]),
  (0xfc5d, [0x649, 0x670]), (0xfc5e, [0x20, 0x64c, 0x651]), (0xfc5f, [0x20, 0x64d, 0x651]),
  (0xfc60, [0x20, 0x64e, 0x651]), (0xfc61, [0x20, 0x64f, 0x651]), (0xfc62, [0x20, 0x650, 0x651]),
  (0xfc63, [0x20, 0x651, 0x670]), (0xfc64, [0x626, 0x631]), (0xfc65, [0x626, 0x632]),
  (0xfc66, [0x626, 0x645]), (0xfc67, [0x626, 0x646]), (0xfc68, [0x626, 0x649]),
  (0xfc69, [0x626, 0x64a]), (0xfc6a, [0x628, 0x631]), (0xfc6b, [0x628, 0x632]),
  (0xfc6c, [0x628, 0x645]), (0xfc6d, [0x628, 0x646]), (0xfc6e, [0x628, 0x649]),
  (0xfc6f, [0x628, 0x64a]), (0xfc70, [0x62a, 0x631]), (0xfc71, [0x62a, 0x632]),
  (0xfc72, [0x62a, 0x645]), (0xfc73, [0x62a, 0x646]), (0xfc74, [0x62a, 0x649]),
  (0xfc75, [0x62a, 0x64a]), (0xfc76, [0x62b, 0x631]), (0xfc77, [0x62b, 0x632]),
  (0xfc78, [0x62b, 0x645]), (0xfc79, [0x62b, 0x646]), (0xfc7a, [0x62b, 0x649]),
  (0xfc7b, [0x62b, 0x64a]), (0xfc7c, [0x641, 0x649]), (0xfc7d, [0x641, 0x64a]),
  (0xfc7e, [0x642, 0x649]), (0xfc7f, [0x642, 0x64a]), (0xfc80, [0x643, 0x627]),
  (0xfc81, [0x643, 0x644]), (0xfc82, [0x643, 0x645]), (0xfc83, [0x643, 0x649]),
  (0xfc84, [0x643, 0x64a]), (0xfc85, [0x644, 0x645]), (0xfc86, [0x644, 0x649]),
  (0xfc87, [0x644, 0x64a]), (0xfc88, [0x645, 0x627]), (0xfc89, [0x645, 0x645]),
  (0xfc8a, [0x646, 0x631]), (0xfc8b, [0x646, 0x632]), (0xfc8c, [0x646, 0x645]),
  (0xfc8d, [0x646, 0x646]), (0xfc8e, [0x646, 0x649]), (0xfc8f, [0x646, 0x64a]),
  (0xfc90, [0x649, 0x670]), (0xfc91, [0x64a, 0x631]), (0xfc92, [0x64a, 0x632]),
  (0xfc93, [0x64a, 0x645]), (0xfc94, [0x64a, 0x646]), (0xfc95, [0x64a, 0x649]),
  (0xfc96, [0x64a, 0x64a]), (0xfc97, [0x626, 0x62c]), (0xfc98, [0x626, 0x62d]),
  (0xfc99, [0x626, 0x62e]), (0xfc9a, [0x626, 0x645]), (0xfc9b, [0x626, 0x647]),
  (0xfc9c, [0x628, 0x62c]), (0xfc9d, [0x628, 0x62d]), (0xfc9e, [0x628, 0x62e]),
  (0xfc9f, [0x628, 0x645]), (0xfca0, [0x628, 0x647]), (0xfca1, [0x62a, 0x62c]),
  (0xfca2, [0x62a, 0x62d]), (0xfca3, [0x62a, 0x62e]), (0xfca4, [0x62a, 0x645]),
  (0xfca5, [0x62a, 0x647]), (0xfca6, [0x62b, 0x645]), (0xfca7, [0x62c, 0x62d]),
  (0xfca8, [0x62c, 0x645]), (0xfca9, [0x62d, 0x62c]), (0xfcaa, [0x62d, 0x645]),
  (0xfcab, [0x62e, 0x62c]), (0xfcac, [0x62e, 0x645]), (0xfcad, [0x633, 0x62c]),
  (0xfcae, [0x633, 0x62d]), (0xfcaf, [0x633, 0x62e]), (0xfcb0, [0x633, 0x645]),
  (0xfcb1, [0x635, 0x62d]), (0xfcb2, [0x635, 0x62e]), (0xfcb3, [0x635, 0x645]),
  (0xfcb4, [0x636, 0x62c]), (0xfcb5, [0x636, 0x62d]), (0xfcb6, [0x636, 0x62e]),
  (0xfcb7, [0x636, 0x645]), (0xfcb8, [0x637, 0x62d]), (0xfcb9, [0x638, 0x645]),
  (0xfcba, [0x639, 0x62c]), (0xfcbb, [0x639, 0x645]), (0xfcbc, [0x63a, 0x62c]),
  (0xfcbd, [0x63a, 0x645]), (0xfcbe, [0x641, 0x62c]), (0xfcbf, [0x641, 0x62d]),
  (0xfcc0, [0x641, 0x62e]), (0xfcc1, [0x641, 0x645]), (0xfcc2, [0x642, 0x62d]),
  (0xfcc3, [0x642, 0x645]), (0xfcc4, [0x643, 0x62c]), (0xfcc5, [0x643, 0x62d]),
  (0xfcc6, [0x643, 0x62e]), (0xfcc7, [0x643, 0x644]), (0xfcc8, [0x643, 0x645]),
  (0xfcc9, [0x644, 0x62c]), (0xfcca, [0x644, 0x62d]), (0xfccb, [0x644, 0x62e]),
  (0xfccc, [0x644, 0x645]), (0xfccd, [0x644, 0x647]), (0xfcce, [0x645, 0x62c]),
  (0xfccf, [0x645, 0x62d]), (0xfcd0, [0x645, 0x62e]), (0xfcd1, [0x645, 0x645]),
  (0xfcd2, [0x646, 0x62c]), (0xfcd3, [0x646, 0x62d]), (0xfcd4, [0x646, 0x62e]),
  (0xfcd5, [0x646, 0x645]), (0xfcd6, [0x646, 0x647]), (0xfcd7, [0x647, 0x62c]),
  (0xfcd8, [0x647, 0x645]), (0xfcd9, [0x647, 0x670]), (0xfcda, [0x64a, 0x62c]),
  (0xfcdb, [0x64a, 0x62d]), (0xfcdc, [0x64a, 0x62e]), (0xfcdd, [0x64a, 0x645]),
  (0xfcde, [0x64a, 0x647]), (0xfcdf, [0x626, 0x645]), (0xfce0, [0x626, 0x647]),
  (0xfce1, [0x628, 0x645]), (0xfce2, [0x628, 0x647]), (0xfce3, [0x62a, 0x645]),
  (0xfce4, [0x62a, 0x647]), (0xfce5, [0x62b, 0x645]), (0xfce6, [0x62b, 0x647]),
  (0xfce7, [0x633, 0x645]), (0xfce8, [0x633, 0x647]), (0xfce9, [0x634, 0x645]),
  (0xfcea, [0x634, 0x647]), (0xfceb, [0x643, 0x644]), (0xfcec, [0x643, 0x645]),
  (0xfced, [0x644, 0x645]), (0xfcee, [0x646, 0x645]), (0xfcef, [0x646, 0x647]),
  (0xfcf0, [0x64a, 0x645]), (0xfcf1, [0x64a, 0x647]), (0xfcf2, [0x640, 0x64e, 0x651]),
  (0xfcf3, [0x640, 0x64f, 0x651]), (0xfcf4, [0x640, 0x650, 0x651]), (0xfcf5, [0x637, 0x649]),
  (0xfcf6, [0x637, 0x64a]), (0xfcf7, [0x639, 0x649]), (0xfcf8, [0x639, 0x64a]),
  (0xfcf9, [0x63a, 0x649]), (0xfcfa, [0x63a, 0x64a]), (0xfcfb, [0x633, 0x649]),
  (0xfcfc, [0x633, 0x64a]), (0xfcfd, [0x634, 0x649]), (0xfcfe, [0x634, 0x64a]),
  (0xfcff, [0x62d, 0x649]), (0xfd00, [0x62d, 0x64a]), (0xfd01, [0x62c, 0x649]),
  (0xfd02, [0x62c, 0x64a]), (0xfd03, [0x62e, 0x649]), (0xfd04, [0x62e, 0x64a]),
  (0xfd05, [0x635, 0x649]), (0xfd06, [0x635, 0x64a]), (0xfd07, [0x636, 0x649]),
  (0xfd08, [0x636, 0x64a]), (0xfd09, [0x634, 0x62c]), (0xfd0a, [0x634, 0x62d]),
  (0xfd0b, [0x634, 0x62e]), (0xfd0c, [0x634, 0x645]), (0xfd0d, [0x634, 0x631]),
  (0xfd0e, [0x633, 0x631]), (0xfd0f, [0x635, 0x631]), (0xfd10, [0x636, 0x631]),
  (0xfd11, [0x637, 0x649]), (0xfd12, [0x637, 0x64a]), (0xfd13, [0x639, 0x649]),
  (0xfd14, [0x639, 0x64a]), (0xfd15, [0x63a, 0x649]), (0xfd16, [0x63a, 0x64a]),
  (0xfd17, [0x633, 0x649]), (0xfd18, [0x633, 0x64a]), (0xfd19, [0x634, 0x649]),
  (0xfd1a, [0x634, 0x64a]), (0xfd1b, [0x62d, 0x649]), (0xfd1c, [0x62d, 0x64a]),
  (0xfd1d, [0x62c, 0x649]), (0xfd1e, [0x62c, 0x64a]), (0xfd1f, [0x62e, 0x649]),
  (0xfd20, [0x62e, 0x64a]), (0xfd21, [0x635, 0x649]), (0xfd22, [0x635, 0x64a]),
  (0xfd23, [0x636, 0x649]), (0xfd24, [0x636, 0x64a]), (0xfd25, [0x634, 0x62c]),
  (0xfd26, [0x634, 0x62d]), (0xfd27, [0x634, 0x62e]), (0xfd28, [0x634, 0x645]),
  (0xfd29, [0x634, 0x631]), (0xfd2a, [0x633, 0x631]), (0xfd2b, [0x635, 0x631]),
  (0xfd2c, [0x636, 0x631]), (0xfd2d, [0x634, 0x62c]), (0xfd2e, [0x634, 0x62d]),
  (0xfd2f, [0x634, 0x62e]), (0xfd30, [0x634, 0x645]), (0xfd31, [0x633, 0x647]),
  (0xfd32, [0x634, 0x647]), (0xfd33, [0x637, 0x645]), (0xfd34, [0x633, 0x62c]),
  (0xfd35, [0x633, 0x62d]), (0xfd36, [0x633, 0x62e]), (0xfd37, [0x634, 0x62c]),
  (0xfd38, [0x634, 0x62d]), (0xfd39, [0x634, 0x62e]), (0xfd3a, [0x637, 0x645]),
  (0xfd3b, [0x638, 0x645]), (0xfd3c, [0x627, 0x64b]), (0xfd3d, [0x627, 0x64b]),
  (0xfd50, [0x62a, 0x62c, 0x645]), (0xfd51, [0x62a, 0x62d, 0x62c]), (0xfd52, [0x62a, 0x62d, 0x62c]),
  (0xfd53, [0x62a, 0x62d, 0x645]), (0xfd54, [0x62a, 0x62e, 0x645]), (0xfd55, [0x62a, 0x645, 0x62c]),
  (0xfd56, [0x62a, 0x645, 0x62d]), (0xfd57, [0x62a, 0x645, 0x62e]), (0xfd58, [0x62c, 0x645, 0x62d]),
  (0xfd59, [0x62c, 0x645, 0x62d]), (0xfd5a, [0x62d, 0x645, 0x64a]), (0xfd5b, [0x62d, 0x645, 0x649]),
  (0xfd5c, [0x633, 0x62d, 0x62c]), (0xfd5d, [0x633, 0x62c, 0x62d]), (0xfd5e, [0x633, 0x62c, 0x649]),
  (0xfd5f, [0x633, 0x645, 0x62d]), (0xfd60, [0x633, 0x645, 0x62d]), (0xfd61, [0x633, 0x645, 0x62c]),
  (0xfd62, [0x633, 0x645, 0x645]), (0xfd63, [0x633, 0x645, 0x645]), (0xfd64, [0x635, 0x62d, 0x62d]),
  (0xfd65, [0x635, 0x62d, 0x62d]), (0xfd66, [0x635, 0x645, 0x645]), (0xfd67, [0x634, 0x62d, 0x645]),
  (0xfd68, [0x634, 0x62d, 0x645]), (0xfd69, [0x634, 0x62c, 0x64a]), (0xfd6a, [0x634, 0x645, 0x62e]),
  (0xfd6b, [0x634, 0x645, 0x62e]), (0xfd6c, [0x634, 0x645, 0x645]), (0xfd6d, [0x634, 0x645, 0x645]),
  (0xfd6e, [0x636, 0x62d, 0x649]), (0xfd6f, [0x636, 0x62e, 0x645]), (0xfd70, [0x636, 0x62e, 0x645]),
  (0xfd71, [0x637, 0x645, 0x62d]), (0xfd72, [0x637, 0x645, 0x62d]), (0xfd73, [0x637, 0x645, 0x645]),
  (0xfd74, [0x637, 0x645, 0x64a]), (0xfd75, [0x639, 0x62c, 0x645]), (0xfd76, [0x639, 0x645, 0x645]),
  (0xfd77, [0x639, 0x645, 0x645]), (0xfd78, [0x639, 0x645, 0x649]), (0xfd79, [0x63a, 0x645, 0x645]),
  (0xfd7a, [0x63a, 0x645, 0x64a]), (0xfd7b, [0x63a, 0x645, 0x649]), (0xfd7c, [0x641, 0x62e, 0x645]),
  (0xfd7d, [0x641, 0x62e, 0x645]), (0xfd7e, [0x642, 0x645, 0x62d]), (0xfd7f, [0x642, 0x645, 0x645]),
  (0xfd80, [0x644, 0x62d, 0x645]), (0xfd81, [0x644, 0x62d, 0x64a]), (0xfd82, [0x644, 0x62d, 0x649]),
  (0xfd83, [0x644, 0x62c, 0x62c]), (0xfd84, [0x644, 0x62c, 0x62c]), (0xfd85, [0x644, 0x62e, 0x645]),
  (0xfd86, [0x644, 0x62e, 0x645]), (0xfd87, [0x644, 0x645, 0x62d]), (0xfd88, [0x644, 0x645, 0x62d]),
  (0xfd89, [0x645, 0x62d, 0x62c]), (0xfd8a, [0x645, 0x62d, 0x645]), (0xfd8b, [0x645, 0x62d, 0x64a]),
  (0xfd8c, [0x645, 0x62c, 0x62d]), (0xfd8d, [0x645, 0x62c, 0x645]), (0xfd8e, [0x645, 0x62e, 0x62c]),
  (0xfd8f, [0x645, 0x62e, 0x645]), (0xfd92, [0x645, 0x62c, 0x62e]), (0xfd93, [0x647, 0x645, 0x62c]),
  (0xfd94, [0x647, 0x645, 0x645]), (0xfd95, [0x646, 0x62d, 0x645]), (0xfd96, [0x646, 0x62d, 0x649]),
  (0xfd97, [0x646, 0x62c, 0x645]), (0xfd98, [0x646, 0x62c, 0x645]), (0xfd99, [0x646, 0x62c, 0x649]),
  (0xfd9a, [0x646, 0x645, 0x64a]), (0xfd9b, [0x646, 0x645, 0x649]), (0xfd9c, [0x64a, 0x645, 0x645]),
  (0xfd9d, [0x64a, 0x645, 0x645]), (0xfd9e, [0x628, 0x62e, 0x64a]), (0xfd9f, [0x62a, 0x62c, 0x64a]),
  (0xfda0, [0x62a, 0x62c, 0x649]), (0xfda1, [0x62a, 0x62e, 0x64a]), (0xfda2, [0x62a, 0x62e, 0x649]),
  (0xfda3, [0x62a, 0x645, 0x64a]), (0xfda4, [0x62a, 0x645, 0x649]), (0xfda5, [0x62c, 0x645, 0x64a]),
  (0xfda6, [0x62c, 0x62d, 0x649]), (0xfda7, [0x62c, 0x645, 0x649]), (0xfda8, [0x633, 0x62e, 0x649]),
  (0xfda9, [0x635, 0x62d, 0x64a]), (0xfdaa, [0x634, 0x62d, 0x64a]), (0xfdab, [0x636, 0x62d, 0x64a]),
  (0xfdac, [0x644, 0x62c, 0x64a]), (0xfdad, [0x644, 0x645, 0x64a]), (0xfdae, [0x64a, 0x62d, 0x64a]),
  (0xfdaf, [0x64a, 0x62c, 0x64a]), (0xfdb0, [0x64a, 0x645, 0x64a]), (0xfdb1, [0x645, 0x645, 0x64a]),
  (0xfdb2, [0x642, 0x645, 0x64a]), (0xfdb3, [0x646, 0x62d, 0x64a]), (0xfdb4, [0x642, 0x645, 0x62d]),
  (0xfdb5, [0x644, 0x62d, 0x645]), (0xfdb6, [0x639, 0x645, 0x64a]), (0xfdb7, [0x643, 0x645, 0x64a]),
  (0xfdb8, [0x646, 0x62c, 0x62d]), (0xfdb9, [0x645, 0x62e, 0x64a]), (0xfdba, [0x644, 0x62c, 0x645]),
  (0xfdbb, [0x643, 0x645, 0x645]), (0xfdbc, [0x644, 0x62c, 0x645]), (0xfdbd, [0x646, 0x62c, 0x62d]),
  (0xfdbe, [0x62c, 0x62d, 0x64a]), (0xfdbf, [0x62d, 0x62c, 0x64a]), (0xfdc0, [0x645, 0x62c, 0x64a]),
  (0xfdc1, [0x641, 0x645, 0x64a]), (0xfdc2, [0x628, 0x62d, 0x64a]), (0xfdc3, [0x643, 0x645, 0x645]),
  (0xfdc4, [0x639, 0x62c, 0x645]), (0xfdc5, [0x635, 0x645, 0x645]), (0xfdc6, [0x633, 0x62e, 0x64a]),
  (0xfdc7, [0x646, 0x62c, 0x64a]), (0xfdf0, [0x635, 0x644, 0x6d2]), (0xfdf1, [0x642, 0x644, 0x6d2]),
  (0xfdf2, [0x627, 0x644, 0x644, 0x647]), (0xfdf3, [0x627, 0x643, 0x628, 0x631]),
  (0xfdf4, [0x645, 0x62d, 0x645, 0x62f]), (0xfdf5, [0x635, 0x644, 0x639, 0x645]),
  (0xfdf6, [0x631, 0x633, 0x648, 0x644]), (0xfdf7, [0x639, 0x644, 0x64a, 0x647]),
  (0xfdf8, [0x648, 0x633, 0x644, 0x645]), (0xfdf9, [0x635, 0x644, 0x649]),
  (0xfdfa, [0x635, 0x644, 0x649, 0x20, 0x627, 0x644, 0x644, 0x647, 0x20, 0x639, 0x644, 0x64a, 0x647, 0x20, 0x648, 0x633, 0x644, 0x645]),
  (0xfdfb, [0x62c, 0x644, 0x20, 0x62c, 0x644, 0x627, 0x644, 0x647]),
  (0xfdfc, [0x631, 0x6cc, 0x627, 0x644]), (0xfe49, [0x20, 0x305]), (0xfe4a, [0x20, 0x305]),
  (0xfe4b, [0x20, 0x305]), (0xfe4c, [0x20, 0x305]), (0xfe70, [0x20, 0x64b]),
  (0xfe71, [0x640, 0x64b]), (0xfe72, [0x20, 0x64c]), (0xfe74, [0x20, 0x64d]),
  (0xfe76, [0x20, 0x64e]), (0xfe77, [0x640, 0x64e]), (0xfe78, [0x20, 0x64f]),
  (0xfe79, [0x640, 0x64f]), (0xfe7a, [0x20, 0x650]), (0xfe7b, [0x640, 0x650]),
  (0xfe7c, [0x20, 0x651]), (0xfe7d, [0x640, 0x651]), (0xfe7e, [0x20, 0x652]),
  (0xfe7f, [0x640, 0x652]), (0xfef5, [0x644, 0x622]), (0xfef6, [0x644, 0x622]),
  (0xfef7, [0x644, 0x623]), (0xfef8, [0x644, 0x623]), (0xfef9, [0x644, 0x625]),
  (0xfefa, [0x644, 0x625]), (0xfefb, [0x644, 0x627]), (0xfefc, [0x644, 0x627]),
  (0xffe3, [0x20, 0x304])]

def laterExpansions : List (Nat × List Nat) := [
  (0x1d15e, [0x1d157, 0x1d165]), (0x1d15f, [0x1d158, 0x1d165]),
  (0x1d160, [0x1d158, 0x1d165, 0x1d16e]), (0x1d161, [0x1d158, 0x1d165, 0x1d16f]),
  (0x1d162, [0x1d158, 0x1d165, 0x1d170]), (0x1d163, [0x1d158, 0x1d165, 0x1d171]),
  (0x1d164, [0x1d158, 0x1d165, 0x1d172]), (0x1d1bb, [0x1d1b9, 0x1d165]),
  (0x1d1bc, [0x1d1ba, 0x1d165]), (0x1d1bd, [0x1d1b9, 0x1d165, 0x1d16e]),
  (0x1d1be, [0x1d1ba, 0x1d165, 0x1d16e]), (0x1d1bf, [0x1d1b9, 0x1d165, 0x1d16f]),
  (0x1d1c0, [0x1d1ba, 0x1d165, 0x1d16f]), (0x1f101, [0x30, 0x2c]), (0x1f102, [0x31, 0x2c]),
  (0x1f103, [0x32, 0x2c]), (0x1f104, [0x33, 0x2c]), (0x1f105, [0x34, 0x2c]),
  (0x1f106, [0x35, 0x2c]), (0x1f107, [0x36, 0x2c]), (0x1f108, [0x37, 0x2c]),
  (0x1f109, [0x38, 0x2c]), (0x1f10a, [0x39, 0x2c]), (0x1f110, [0x28, 0x61, 0x29]),
  (0x1f111, [0x28, 0x62, 0x29]), (0x1f112, [0x28, 0x63, 0x29]), (0x1f113, [0x28, 0x64, 0x29]),
  (0x1f114, [0x28, 0x65, 0x29]), (0x1f115, [0x28, 0x66, 0x29]), (0x1f116, [0x28, 0x67, 0x29]),
  (0x1f117, [0x28, 0x68, 0x29]), (0x1f118, [0x28, 0x69, 0x29]), (0x1f119, [0x28, 0x6a, 0x29]),
  (0x1f11a, [0x28, 0x6b, 0x29]), (0x1f11b, [0x28, 0x6c, 0x29]), (0x1f11c, [0x28, 0x6d, 0x29]),
  (0x1f11d, [0x28, 0x6e, 0x29]), (0x1f11e, [0x28, 0x6f, 0x29]), (0x1f11f, [0x28, 0x70, 0x29]),
  (0x1f120, [0x28, 0x71, 0x29]), (0x1f121, [0x28, 0x72, 0x29]), (0x1f122, [0x28, 0x73, 0x29]),
  (0x1f123, [0x28, 0x74, 0x29]), (0x1f124, [0x28, 0x75, 0x29]), (0x1f125, [0x28, 0x76, 0x29]),
  (0x1f126, [0x28, 0x77, 0x29]), (0x1f127, [0x28, 0x78, 0x29]), (0x1f128, [0x28, 0x79, 0x29]),
  (0x1f129, [0x28, 0x7a, 0x29]), (0x1f12a, [0x3014, 0x73, 0x3015]), (0x1f12d, [0x63, 0x64]),
  (0x1f12e, [0x77, 0x7a]), (0x1f14a, [0x68, 0x76]), (0x1f14b, [0x6d, 0x76]),
  (0x1f14c, [0x73, 0x64]), (0x1f14d, [0x73, 0x73]), (0x1f14e, [0x70, 0x70, 0x76]),
  (0x1f14f, [0x77, 0x63]), (0x1f16a, [0x6d, 0x63]), (0x1f16b, [0x6d, 0x64]),
  (0x1f16c, [0x6d, 0x72]), (0x1f190, [0x64, 0x6a]), (0x1f200, [0x307b, 0x304b]),
  (0x1f201, [0x30b3, 0x30b3]), (0x1f240, [0x3014, 0x672c, 0x3015]),
  (0x1f241, [0x3014, 0x4e09, 0x3015]), (0x1f242, [0x3014, 0x4e8c, 0x3015]),
  (0x1f243, [0x3014, 0x5b89, 0x3015]), (0x1f244, [0x3014, 0x70b9, 0x3015]),
  (0x1f245, [0x3014, 0x6253, 0x3015]), (0x1f246, [0x3014, 0x76d7, 0x3015]),
  (0x1f247, [0x3014, 0x52dd, 0x3015]), (0x1f248, [0x3014, 0x6557, 0x3015])]

def expansions : List (Nat × List Nat) :=
  letterExpansions ++ squareExpansions ++ formExpansions ++ laterExpansions

/-- Characters that vanish from a name. -/
def vanishing : List Text.CodeRange := Text.CodeRange.ofPairs [
  (0xad, 0xad), (0x34f, 0x34f), (0x115f, 0x1160), (0x17b4, 0x17b5), (0x180b, 0x180f),
  (0x200b, 0x200b), (0x2060, 0x2064), (0x206a, 0x206f), (0x3164, 0x3164), (0xfe00, 0xfe0f),
  (0xfeff, 0xfeff), (0xffa0, 0xffa0), (0x1bca0, 0x1bca3), (0x1d173, 0x1d17a), (0xe0100, 0xe01ef)]

/-- Characters that no name has. -/
def refused : List Text.CodeRange := Text.CodeRange.ofPairs [
  (0x80, 0x9f), (0x378, 0x379), (0x380, 0x383), (0x38b, 0x38b), (0x38d, 0x38d), (0x3a2, 0x3a2),
  (0x530, 0x530), (0x557, 0x558), (0x58b, 0x58c), (0x590, 0x590), (0x5c8, 0x5cf), (0x5eb, 0x5ee),
  (0x5f5, 0x605), (0x61c, 0x61c), (0x6dd, 0x6dd), (0x70e, 0x70f), (0x74b, 0x74c), (0x7b2, 0x7bf),
  (0x7fb, 0x7fc), (0x82e, 0x82f), (0x83f, 0x83f), (0x85c, 0x85d), (0x85f, 0x85f), (0x86b, 0x86f),
  (0x890, 0x896), (0x8e2, 0x8e2), (0x984, 0x984), (0x98d, 0x98e), (0x991, 0x992), (0x9a9, 0x9a9),
  (0x9b1, 0x9b1), (0x9b3, 0x9b5), (0x9ba, 0x9bb), (0x9c5, 0x9c6), (0x9c9, 0x9ca), (0x9cf, 0x9d6),
  (0x9d8, 0x9db), (0x9de, 0x9de), (0x9e4, 0x9e5), (0x9ff, 0xa00), (0xa04, 0xa04), (0xa0b, 0xa0e),
  (0xa11, 0xa12), (0xa29, 0xa29), (0xa31, 0xa31), (0xa34, 0xa34), (0xa37, 0xa37), (0xa3a, 0xa3b),
  (0xa3d, 0xa3d), (0xa43, 0xa46), (0xa49, 0xa4a), (0xa4e, 0xa50), (0xa52, 0xa58), (0xa5d, 0xa5d),
  (0xa5f, 0xa65), (0xa77, 0xa80), (0xa84, 0xa84), (0xa8e, 0xa8e), (0xa92, 0xa92), (0xaa9, 0xaa9),
  (0xab1, 0xab1), (0xab4, 0xab4), (0xaba, 0xabb), (0xac6, 0xac6), (0xaca, 0xaca), (0xace, 0xacf),
  (0xad1, 0xadf), (0xae4, 0xae5), (0xaf2, 0xaf8), (0xb00, 0xb00), (0xb04, 0xb04), (0xb0d, 0xb0e),
  (0xb11, 0xb12), (0xb29, 0xb29), (0xb31, 0xb31), (0xb34, 0xb34), (0xb3a, 0xb3b), (0xb45, 0xb46),
  (0xb49, 0xb4a), (0xb4e, 0xb54), (0xb58, 0xb5b), (0xb5e, 0xb5e), (0xb64, 0xb65), (0xb78, 0xb81),
  (0xb84, 0xb84), (0xb8b, 0xb8d), (0xb91, 0xb91), (0xb96, 0xb98), (0xb9b, 0xb9b), (0xb9d, 0xb9d),
  (0xba0, 0xba2), (0xba5, 0xba7), (0xbab, 0xbad), (0xbba, 0xbbd), (0xbc3, 0xbc5), (0xbc9, 0xbc9),
  (0xbce, 0xbcf), (0xbd1, 0xbd6), (0xbd8, 0xbe5), (0xbfb, 0xbff), (0xc0d, 0xc0d), (0xc11, 0xc11),
  (0xc29, 0xc29), (0xc3a, 0xc3b), (0xc45, 0xc45), (0xc49, 0xc49), (0xc4e, 0xc54), (0xc57, 0xc57),
  (0xc5b, 0xc5b), (0xc5e, 0xc5f), (0xc64, 0xc65), (0xc70, 0xc76), (0xc8d, 0xc8d), (0xc91, 0xc91),
  (0xca9, 0xca9), (0xcb4, 0xcb4), (0xcba, 0xcbb), (0xcc5, 0xcc5), (0xcc9, 0xcc9), (0xcce, 0xcd4),
  (0xcd7, 0xcdb), (0xcdf, 0xcdf), (0xce4, 0xce5), (0xcf0, 0xcf0), (0xcf4, 0xcff), (0xd0d, 0xd0d),
  (0xd11, 0xd11), (0xd45, 0xd45), (0xd49, 0xd49), (0xd50, 0xd53), (0xd64, 0xd65), (0xd80, 0xd80),
  (0xd84, 0xd84), (0xd97, 0xd99), (0xdb2, 0xdb2), (0xdbc, 0xdbc), (0xdbe, 0xdbf), (0xdc7, 0xdc9),
  (0xdcb, 0xdce), (0xdd5, 0xdd5), (0xdd7, 0xdd7), (0xde0, 0xde5), (0xdf0, 0xdf1), (0xdf5, 0xe00),
  (0xe3b, 0xe3e), (0xe5c, 0xe80), (0xe83, 0xe83), (0xe85, 0xe85), (0xe8b, 0xe8b), (0xea4, 0xea4),
  (0xea6, 0xea6), (0xebe, 0xebf), (0xec5, 0xec5), (0xec7, 0xec7), (0xecf, 0xecf), (0xeda, 0xedb),
  (0xee0, 0xeff), (0xf48, 0xf48), (0xf6d, 0xf70), (0xf98, 0xf98), (0xfbd, 0xfbd), (0xfcd, 0xfcd),
  (0xfdb, 0xfff), (0x10c6, 0x10c6), (0x10c8, 0x10cc), (0x10ce, 0x10cf), (0x1249, 0x1249),
  (0x124e, 0x124f), (0x1257, 0x1257), (0x1259, 0x1259), (0x125e, 0x125f), (0x1289, 0x1289),
  (0x128e, 0x128f), (0x12b1, 0x12b1), (0x12b6, 0x12b7), (0x12bf, 0x12bf), (0x12c1, 0x12c1),
  (0x12c6, 0x12c7), (0x12d7, 0x12d7), (0x1311, 0x1311), (0x1316, 0x1317), (0x135b, 0x135c),
  (0x137d, 0x137f), (0x139a, 0x139f), (0x13f6, 0x13f7), (0x13fe, 0x13ff), (0x1680, 0x1680),
  (0x169d, 0x169f), (0x16f9, 0x16ff), (0x1716, 0x171e), (0x1737, 0x173f), (0x1754, 0x175f),
  (0x176d, 0x176d), (0x1771, 0x1771), (0x1774, 0x177f), (0x17de, 0x17df), (0x17ea, 0x17ef),
  (0x17fa, 0x17ff), (0x181a, 0x181f), (0x1879, 0x187f), (0x18ab, 0x18af), (0x18f6, 0x18ff),
  (0x191f, 0x191f), (0x192c, 0x192f), (0x193c, 0x193f), (0x1941, 0x1943), (0x196e, 0x196f),
  (0x1975, 0x197f), (0x19ac, 0x19af), (0x19ca, 0x19cf), (0x19db, 0x19dd), (0x1a1c, 0x1a1d),
  (0x1a5f, 0x1a5f), (0x1a7d, 0x1a7e), (0x1a8a, 0x1a8f), (0x1a9a, 0x1a9f), (0x1aae, 0x1aaf),
  (0x1ade, 0x1adf), (0x1aec, 0x1aff), (0x1b4d, 0x1b4d), (0x1bf4, 0x1bfb), (0x1c38, 0x1c3a),
  (0x1c4a, 0x1c4c), (0x1c8b, 0x1c8f), (0x1cbb, 0x1cbc), (0x1cc8, 0x1ccf), (0x1cfb, 0x1cff),
  (0x1f16, 0x1f17), (0x1f1e, 0x1f1f), (0x1f46, 0x1f47), (0x1f4e, 0x1f4f), (0x1f58, 0x1f58),
  (0x1f5a, 0x1f5a), (0x1f5c, 0x1f5c), (0x1f5e, 0x1f5e), (0x1f7e, 0x1f7f), (0x1fb5, 0x1fb5),
  (0x1fc5, 0x1fc5), (0x1fd4, 0x1fd5), (0x1fdc, 0x1fdc), (0x1ff0, 0x1ff1), (0x1ff5, 0x1ff5),
  (0x1fff, 0x1fff), (0x200e, 0x200f), (0x2024, 0x2026), (0x2028, 0x202e), (0x2065, 0x2069),
  (0x2072, 0x2073), (0x208f, 0x208f), (0x209d, 0x209f), (0x20c2, 0x20cf), (0x20f1, 0x20ff),
  (0x218c, 0x218f), (0x242a, 0x243f), (0x244b, 0x245f), (0x2488, 0x249b), (0x2b74, 0x2b75),
  (0x2cf4, 0x2cf8), (0x2d26, 0x2d26), (0x2d28, 0x2d2c), (0x2d2e, 0x2d2f), (0x2d68, 0x2d6e),
  (0x2d71, 0x2d7e), (0x2d97, 0x2d9f), (0x2da7, 0x2da7), (0x2daf, 0x2daf), (0x2db7, 0x2db7),
  (0x2dbf, 0x2dbf), (0x2dc7, 0x2dc7), (0x2dcf, 0x2dcf), (0x2dd7, 0x2dd7), (0x2ddf, 0x2ddf),
  (0x2e5e, 0x2e7f), (0x2e9a, 0x2e9a), (0x2ef4, 0x2eff), (0x2fd6, 0x2fff), (0x3040, 0x3040),
  (0x3097, 0x3098), (0x3100, 0x3104), (0x3130, 0x3130), (0x318f, 0x318f), (0x31e6, 0x31ef),
  (0x321f, 0x321f), (0x33c2, 0x33c2), (0x33c7, 0x33c7), (0x33d8, 0x33d8), (0xa48d, 0xa48f),
  (0xa4c7, 0xa4cf), (0xa62c, 0xa63f), (0xa6f8, 0xa6ff), (0xa7dd, 0xa7f0), (0xa82d, 0xa82f),
  (0xa83a, 0xa83f), (0xa878, 0xa87f), (0xa8c6, 0xa8cd), (0xa8da, 0xa8df), (0xa954, 0xa95e),
  (0xa97d, 0xa97f), (0xa9ce, 0xa9ce), (0xa9da, 0xa9dd), (0xa9ff, 0xa9ff), (0xaa37, 0xaa3f),
  (0xaa4e, 0xaa4f), (0xaa5a, 0xaa5b), (0xaac3, 0xaada), (0xaaf7, 0xab00), (0xab07, 0xab08),
  (0xab0f, 0xab10), (0xab17, 0xab1f), (0xab27, 0xab27), (0xab2f, 0xab2f), (0xab6c, 0xab6f),
  (0xabee, 0xabef), (0xabfa, 0xabff), (0xd7a4, 0xd7af), (0xd7c7, 0xd7ca), (0xd7fc, 0xf8ff),
  (0xfa6e, 0xfa6f), (0xfada, 0xfaff), (0xfb07, 0xfb12), (0xfb18, 0xfb1c), (0xfb37, 0xfb37),
  (0xfb3d, 0xfb3d), (0xfb3f, 0xfb3f), (0xfb42, 0xfb42), (0xfb45, 0xfb45), (0xfdd0, 0xfdef),
  (0xfe12, 0xfe12), (0xfe19, 0xfe1f), (0xfe30, 0xfe30), (0xfe52, 0xfe53), (0xfe67, 0xfe67),
  (0xfe6c, 0xfe6f), (0xfe75, 0xfe75), (0xfefd, 0xfefe), (0xff00, 0xff00), (0xffbf, 0xffc1),
  (0xffc8, 0xffc9), (0xffd0, 0xffd1), (0xffd8, 0xffd9), (0xffdd, 0xffdf), (0xffe7, 0xffe7),
  (0xffef, 0xffff), (0x1000c, 0x1000c), (0x10027, 0x10027), (0x1003b, 0x1003b), (0x1003e, 0x1003e),
  (0x1004e, 0x1004f), (0x1005e, 0x1007f), (0x100fb, 0x100ff), (0x10103, 0x10106),
  (0x10134, 0x10136), (0x1018f, 0x1018f), (0x1019d, 0x1019f), (0x101a1, 0x101cf),
  (0x101fe, 0x1027f), (0x1029d, 0x1029f), (0x102d1, 0x102df), (0x102fc, 0x102ff),
  (0x10324, 0x1032c), (0x1034b, 0x1034f), (0x1037b, 0x1037f), (0x1039e, 0x1039e),
  (0x103c4, 0x103c7), (0x103d6, 0x103ff), (0x1049e, 0x1049f), (0x104aa, 0x104af),
  (0x104d4, 0x104d7), (0x104fc, 0x104ff), (0x10528, 0x1052f), (0x10564, 0x1056e),
  (0x1057b, 0x1057b), (0x1058b, 0x1058b), (0x10593, 0x10593), (0x10596, 0x10596),
  (0x105a2, 0x105a2), (0x105b2, 0x105b2), (0x105ba, 0x105ba), (0x105bd, 0x105bf),
  (0x105f4, 0x105ff), (0x10737, 0x1073f), (0x10756, 0x1075f), (0x10768, 0x1077f),
  (0x10786, 0x10786), (0x107b1, 0x107b1), (0x107bb, 0x107ff), (0x10806, 0x10807),
  (0x10809, 0x10809), (0x10836, 0x10836), (0x10839, 0x1083b), (0x1083d, 0x1083e),
  (0x10856, 0x10856), (0x1089f, 0x108a6), (0x108b0, 0x108df), (0x108f3, 0x108f3),
  (0x108f6, 0x108fa), (0x1091c, 0x1091e), (0x1093a, 0x1093e), (0x1095a, 0x1097f),
  (0x109b8, 0x109bb), (0x109d0, 0x109d1), (0x10a04, 0x10a04), (0x10a07, 0x10a0b),
  (0x10a14, 0x10a14), (0x10a18, 0x10a18), (0x10a36, 0x10a37), (0x10a3b, 0x10a3e),
  (0x10a49, 0x10a4f), (0x10a59, 0x10a5f), (0x10aa0, 0x10abf), (0x10ae7, 0x10aea),
  (0x10af7, 0x10aff), (0x10b36, 0x10b38), (0x10b56, 0x10b57), (0x10b73, 0x10b77),
  (0x10b92, 0x10b98), (0x10b9d, 0x10ba8), (0x10bb0, 0x10bff), (0x10c49, 0x10c7f),
  (0x10cb3, 0x10cbf), (0x10cf3, 0x10cf9), (0x10d28, 0x10d2f), (0x10d3a, 0x10d3f),
  (0x10d66, 0x10d68), (0x10d86, 0x10d8d), (0x10d90, 0x10e5f), (0x10e7f, 0x10e7f),
  (0x10eaa, 0x10eaa), (0x10eae, 0x10eaf), (0x10eb2, 0x10ec1), (0x10ec8, 0x10ecf),
  (0x10ed9, 0x10ef9), (0x10f28, 0x10f2f), (0x10f5a, 0x10f6f), (0x10f8a, 0x10faf),
  (0x10fcc, 0x10fdf), (0x10ff7, 0x10fff), (0x1104e, 0x11051), (0x11076, 0x1107e),
  (0x110bd, 0x110bd), (0x110c3, 0x110cf), (0x110e9, 0x110ef), (0x110fa, 0x110ff),
  (0x11135, 0x11135), (0x11148, 0x1114f), (0x11177, 0x1117f), (0x111e0, 0x111e0),
  (0x111f5, 0x111ff), (0x11212, 0x11212), (0x11242, 0x1127f), (0x11287, 0x11287),
  (0x11289, 0x11289), (0x1128e, 0x1128e), (0x1129e, 0x1129e), (0x112aa, 0x112af),
  (0x112eb, 0x112ef), (0x112fa, 0x112ff), (0x11304, 0x11304), (0x1130d, 0x1130e),
  (0x11311, 0x11312), (0x11329, 0x11329), (0x11331, 0x11331), (0x11334, 0x11334),
  (0x1133a, 0x1133a), (0x11345, 0x11346), (0x11349, 0x1134a), (0x1134e, 0x1134f),
  (0x11351, 0x11356), (0x11358, 0x1135c), (0x11364, 0x11365), (0x1136d, 0x1136f),
  (0x11375, 0x1137f), (0x1138a, 0x1138a), (0x1138c, 0x1138d), (0x1138f, 0x1138f),
  (0x113b6, 0x113b6), (0x113c1, 0x113c1), (0x113c3, 0x113c4), (0x113c6, 0x113c6),
  (0x113cb, 0x113cb), (0x113d6, 0x113d6), (0x113d9, 0x113e0), (0x113e3, 0x113ff),
  (0x1145c, 0x1145c), (0x11462, 0x1147f), (0x114c8, 0x114cf), (0x114da, 0x1157f),
  (0x115b6, 0x115b7), (0x115de, 0x115ff), (0x11645, 0x1164f), (0x1165a, 0x1165f),
  (0x1166d, 0x1167f), (0x116ba, 0x116bf), (0x116ca, 0x116cf), (0x116e4, 0x116ff),
  (0x1171b, 0x1171c), (0x1172c, 0x1172f), (0x11747, 0x117ff), (0x1183c, 0x1189f),
  (0x118f3, 0x118fe), (0x11907, 0x11908), (0x1190a, 0x1190b), (0x11914, 0x11914),
  (0x11917, 0x11917), (0x11936, 0x11936), (0x11939, 0x1193a), (0x11947, 0x1194f),
  (0x1195a, 0x1199f), (0x119a8, 0x119a9), (0x119d8, 0x119d9), (0x119e5, 0x119ff),
  (0x11a48, 0x11a4f), (0x11aa3, 0x11aaf), (0x11af9, 0x11aff), (0x11b0a, 0x11b5f),
  (0x11b68, 0x11bbf), (0x11be2, 0x11bef), (0x11bfa, 0x11bff), (0x11c09, 0x11c09),
  (0x11c37, 0x11c37), (0x11c46, 0x11c4f), (0x11c6d, 0x11c6f), (0x11c90, 0x11c91),
  (0x11ca8, 0x11ca8), (0x11cb7, 0x11cff), (0x11d07, 0x11d07), (0x11d0a, 0x11d0a),
  (0x11d37, 0x11d39), (0x11d3b, 0x11d3b), (0x11d3e, 0x11d3e), (0x11d48, 0x11d4f),
  (0x11d5a, 0x11d5f), (0x11d66, 0x11d66), (0x11d69, 0x11d69), (0x11d8f, 0x11d8f),
  (0x11d92, 0x11d92), (0x11d99, 0x11d9f), (0x11daa, 0x11daf), (0x11ddc, 0x11ddf),
  (0x11dea, 0x11edf), (0x11ef9, 0x11eff), (0x11f11, 0x11f11), (0x11f3b, 0x11f3d),
  (0x11f5b, 0x11faf), (0x11fb1, 0x11fbf), (0x11ff2, 0x11ffe), (0x1239a, 0x123ff),
  (0x1246f, 0x1246f), (0x12475, 0x1247f), (0x12544, 0x12f8f), (0x12ff3, 0x12fff),
  (0x13430, 0x1343f), (0x13456, 0x1345f), (0x143fb, 0x143ff), (0x14647, 0x160ff),
  (0x1613a, 0x167ff), (0x16a39, 0x16a3f), (0x16a5f, 0x16a5f), (0x16a6a, 0x16a6d),
  (0x16abf, 0x16abf), (0x16aca, 0x16acf), (0x16aee, 0x16aef), (0x16af6, 0x16aff),
  (0x16b46, 0x16b4f), (0x16b5a, 0x16b5a), (0x16b62, 0x16b62), (0x16b78, 0x16b7c),
  (0x16b90, 0x16d3f), (0x16d7a, 0x16e3f), (0x16e9b, 0x16e9f), (0x16eb9, 0x16eba),
  (0x16ed4, 0x16eff), (0x16f4b, 0x16f4e), (0x16f88, 0x16f8e), (0x16fa0, 0x16fdf),
  (0x16fe5, 0x16fef), (0x16ff7, 0x16fff), (0x18cd6, 0x18cfe), (0x18d1f, 0x18d7f),
  (0x18df3, 0x1afef), (0x1aff4, 0x1aff4), (0x1affc, 0x1affc), (0x1afff, 0x1afff),
  (0x1b123, 0x1b131), (0x1b133, 0x1b14f), (0x1b153, 0x1b154), (0x1b156, 0x1b163),
  (0x1b168, 0x1b16f), (0x1b2fc, 0x1bbff), (0x1bc6b, 0x1bc6f), (0x1bc7d, 0x1bc7f),
  (0x1bc89, 0x1bc8f), (0x1bc9a, 0x1bc9b), (0x1bca4, 0x1cbff), (0x1ccfd, 0x1ccff),
  (0x1ceb4, 0x1ceb9), (0x1ced1, 0x1cedf), (0x1cef1, 0x1ceff), (0x1cf2e, 0x1cf2f),
  (0x1cf47, 0x1cf4f), (0x1cfc4, 0x1cfff), (0x1d0f6, 0x1d0ff), (0x1d127, 0x1d128),
  (0x1d1eb, 0x1d1ff), (0x1d246, 0x1d2bf), (0x1d2d4, 0x1d2df), (0x1d2f4, 0x1d2ff),
  (0x1d357, 0x1d35f), (0x1d379, 0x1d3ff), (0x1d455, 0x1d455), (0x1d49d, 0x1d49d),
  (0x1d4a0, 0x1d4a1), (0x1d4a3, 0x1d4a4), (0x1d4a7, 0x1d4a8), (0x1d4ad, 0x1d4ad),
  (0x1d4ba, 0x1d4ba), (0x1d4bc, 0x1d4bc), (0x1d4c4, 0x1d4c4), (0x1d506, 0x1d506),
  (0x1d50b, 0x1d50c), (0x1d515, 0x1d515), (0x1d51d, 0x1d51d), (0x1d53a, 0x1d53a),
  (0x1d53f, 0x1d53f), (0x1d545, 0x1d545), (0x1d547, 0x1d549), (0x1d551, 0x1d551),
  (0x1d6a6, 0x1d6a7), (0x1d7cc, 0x1d7cd), (0x1da8c, 0x1da9a), (0x1daa0, 0x1daa0),
  (0x1dab0, 0x1deff), (0x1df1f, 0x1df24), (0x1df2b, 0x1dfff), (0x1e007, 0x1e007),
  (0x1e019, 0x1e01a), (0x1e022, 0x1e022), (0x1e025, 0x1e025), (0x1e02b, 0x1e02f),
  (0x1e06e, 0x1e08e), (0x1e090, 0x1e0ff), (0x1e12d, 0x1e12f), (0x1e13e, 0x1e13f),
  (0x1e14a, 0x1e14d), (0x1e150, 0x1e28f), (0x1e2af, 0x1e2bf), (0x1e2fa, 0x1e2fe),
  (0x1e300, 0x1e4cf), (0x1e4fa, 0x1e5cf), (0x1e5fb, 0x1e5fe), (0x1e600, 0x1e6bf),
  (0x1e6df, 0x1e6df), (0x1e6f6, 0x1e6fd), (0x1e700, 0x1e7df), (0x1e7e7, 0x1e7e7),
  (0x1e7ec, 0x1e7ec), (0x1e7ef, 0x1e7ef), (0x1e7ff, 0x1e7ff), (0x1e8c5, 0x1e8c6),
  (0x1e8d7, 0x1e8ff), (0x1e94c, 0x1e94f), (0x1e95a, 0x1e95d), (0x1e960, 0x1ec70),
  (0x1ecb5, 0x1ed00), (0x1ed3e, 0x1edff), (0x1ee04, 0x1ee04), (0x1ee20, 0x1ee20),
  (0x1ee23, 0x1ee23), (0x1ee25, 0x1ee26), (0x1ee28, 0x1ee28), (0x1ee33, 0x1ee33),
  (0x1ee38, 0x1ee38), (0x1ee3a, 0x1ee3a), (0x1ee3c, 0x1ee41), (0x1ee43, 0x1ee46),
  (0x1ee48, 0x1ee48), (0x1ee4a, 0x1ee4a), (0x1ee4c, 0x1ee4c), (0x1ee50, 0x1ee50),
  (0x1ee53, 0x1ee53), (0x1ee55, 0x1ee56), (0x1ee58, 0x1ee58), (0x1ee5a, 0x1ee5a),
  (0x1ee5c, 0x1ee5c), (0x1ee5e, 0x1ee5e), (0x1ee60, 0x1ee60), (0x1ee63, 0x1ee63),
  (0x1ee65, 0x1ee66), (0x1ee6b, 0x1ee6b), (0x1ee73, 0x1ee73), (0x1ee78, 0x1ee78),
  (0x1ee7d, 0x1ee7d), (0x1ee7f, 0x1ee7f), (0x1ee8a, 0x1ee8a), (0x1ee9c, 0x1eea0),
  (0x1eea4, 0x1eea4), (0x1eeaa, 0x1eeaa), (0x1eebc, 0x1eeef), (0x1eef2, 0x1efff),
  (0x1f02c, 0x1f02f), (0x1f094, 0x1f09f), (0x1f0af, 0x1f0b0), (0x1f0c0, 0x1f0c0),
  (0x1f0d0, 0x1f0d0), (0x1f0f6, 0x1f100), (0x1f1ae, 0x1f1e5), (0x1f203, 0x1f20f),
  (0x1f23c, 0x1f23f), (0x1f249, 0x1f24f), (0x1f252, 0x1f25f), (0x1f266, 0x1f2ff),
  (0x1f6d9, 0x1f6db), (0x1f6ed, 0x1f6ef), (0x1f6fd, 0x1f6ff), (0x1f7da, 0x1f7df),
  (0x1f7ec, 0x1f7ef), (0x1f7f1, 0x1f7ff), (0x1f80c, 0x1f80f), (0x1f848, 0x1f84f),
  (0x1f85a, 0x1f85f), (0x1f888, 0x1f88f), (0x1f8ae, 0x1f8af), (0x1f8bc, 0x1f8bf),
  (0x1f8c2, 0x1f8cf), (0x1f8d9, 0x1f8ff), (0x1fa58, 0x1fa5f), (0x1fa6e, 0x1fa6f),
  (0x1fa7d, 0x1fa7f), (0x1fa8b, 0x1fa8d), (0x1fac7, 0x1fac7), (0x1fac9, 0x1facc),
  (0x1fadd, 0x1fade), (0x1faeb, 0x1faee), (0x1faf9, 0x1faff), (0x1fb93, 0x1fb93),
  (0x1fbfb, 0x1ffff), (0x2a6e0, 0x2a6ff), (0x2b81e, 0x2b81f), (0x2ceae, 0x2ceaf),
  (0x2ebe1, 0x2ebef), (0x2ee5e, 0x2f7ff), (0x2fa1e, 0x2ffff), (0x3134b, 0x3134f),
  (0x3347a, 0xe00ff), (0xe01f0, 0x10ffff)]

end CatalogMigration.Url
