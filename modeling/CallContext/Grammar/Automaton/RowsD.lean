/-!
# Packed rows of the automaton, states 1728 to 2303

One number a state; `CallContext.Row.ofCode` says how to read it.
-/

namespace CallContext.Automaton

/-- States 1728 to 1791. -/
def rows27 : List Nat := [
  0x20f05920e055c4b001bb14a500000b00a,
  0xc4b001bb227500000b00a,
  0x20e055c4b001bb24a900000b00a,
  0x20f05920e05524e04120d051c4b001bb32f500000b00a,
  0x20f05920e05524e04120d051c4b001bb42f500000b00a,
  0x22c05922b05525204122a051c4b001bb719100000a00a,
  0x225059224055251041223051146039c4b001bba1e12b2009001,
  0xc4b001b8827900000a00a,
  0xc4b001bae27900000a00a,
  0x22c05922b05525204122a051c4b001baf19100000a00a,
  0x22c05922b05522abb0052c4b001bb04ad00000a00a,
  0x22c05922b055c4b001bb14b100000a00a,
  0xc4b001bb227900000a00a,
  0x22b055c4b001bb24b500000a00a,
  0x22c05922b05525204122a051c4b001bb319100000a00a,
  0x22c05922b05525204122a051c4b001bb419100000a00a,
  0xe001148816dc4b00173f1612b300d000,
  0xe001148e16dc4b00173f1612b100d000,
  0xe001149a16dc4b00173f1612b400d000,
  0xe001149d16dc4b00173f1612b100d000,
  0xe001194716dc4b00173f1612b500d000,
  0xe001194816dc4b00173f1612b100d000,
  0xe00114a616dc4b00173f1612b600d000,
  0xe00114b216dc4b00173f1612b100d000,
  0xe001146a16dc4b00173f1612b700d000,
  0xe001146b16dc4b00173f1612b100d000,
  0xe001146c16dc4b00173f1612b800d000,
  0xe001146f16dc4b00173f1612b100d000,
  0xe00114e916dc4b00173f1612b900d000,
  0xe00114ee16dc4b00173f1612b100d000,
  0xe001159716dc4b00173f1612ba00d000,
  0xe001159b16dc4b00173f1612b100d000,
  0x1e70591e60551e50411e405116c0391e9065c4b001bbb1052bb008001,
  0x20f05920e05524e04120d051c4b001bb721500000b00a,
  0x62415da80061c4b001bbc4b92bc00b00a,
  0xa80061c4b001bbc2f92bc00b00a,
  0xa80061c4b001bbd2f92bd00b00a,
  0x225059224055251041223051c4b001bbe165000009001,
  0xa80c4ebbf062c4b001bbf2f92bd00b00a,
  0x233059232055253041231051c4b001bb719500000c00a,
  0x225059224055251041223051c4b001bc0165000009001,
  0xc4b001b88229000009001,
  0xc4b001bae229000009001,
  0x21e05921d05525004121c051c4b001baf2fd000009001,
  0x21e05921d05521cbb0052c4b001bb04bd000009001,
  0x21e05921d055c4b001bb14c1000009001,
  0xc4b001bb2229000009001,
  0x21d055c4b001bb24c5000009001,
  0x21e05921d05525004121c051c4b001bb32fd000009001,
  0x21e05921d05525004121c051c4b001bb42fd000009001,
  0xc4b001b8822d000009001,
  0xc4b001bae22d000009001,
  0x225059224055251041223051c4b001baf165000009001,
  0x225059224055223bb0052c4b001bb04c9000009001,
  0x225059224055c4b001bb14cd000009001,
  0xc4b001bb222d000009001,
  0x224055c4b001bb24d1000009001,
  0x225059224055251041223051c4b001bb3165000009001,
  0x225059224055251041223051c4b001bb4165000009001,
  0xc4b001b8827d00000c00a,
  0xc4b001bae27d00000c00a,
  0x233059232055253041231051c4b001baf19500000c00a,
  0x233059232055231bb0052c4b001bb04d500000c00a,
  0x233059232055c4b001bb14d900000c00a]

/-- States 1792 to 1855. -/
def rows28 : List Nat := [
  0xc4b001bb227d00000c00a,
  0x232055c4b001bb24dd00000c00a,
  0x233059232055253041231051c4b001bb319500000c00a,
  0x233059232055253041231051c4b001bb419500000c00a,
  0x1e70591e60551e50411e4051194039c4b001bb610529b008001,
  0x1db0c9a3d0d5a3a0c1a500a5c4b0012be00b001,
  0x1e70591e60551e50411e4051197039c4b001bc11052bf008001,
  0x1e70591e60551e50411e40511e8039c4b001bc21052c0008001,
  0x1e70591e60551e50411e405116c039c4b001bc31052bb008001,
  0x1e70591e60551e50411e405116c039c4b001bc41052bb008001,
  0x1e70591e60551e50411e405116c039c4b001bba1052bb008001,
  0xa621851ef1c51cc1c1c4b0012c100b00d,
  0x1e70591e60551e50411e405116c039c4b001baa1052bb008001,
  0x1e70591e60551e50411e4051c4b001bbe4e1000008001,
  0x23305923205527205d17004d25304123105116f039c4b0012c200c001,
  0xa621851ef1c51cc1c1c4b0012c300b00d,
  0x1e70591e60551e50411e40511e8039c4b001bc51052c4008001,
  0x21e05921d05525004121c051c4b001bc64e5000009001,
  0x203059202055201051c4b001bc721d00000a001,
  0x6d200dc4b001bc8145240001001,
  0x203059202055201051c4b001bc721d00000a001,
  0x203059202055201051c4b001bc721d00000a001,
  0xc4b001b8823100000a001,
  0xc4b001bae23100000a001,
  0x20305920205524d041201051c4b001baf30100000a001,
  0x203059202055201bb0052c4b001bb021d00000a001,
  0x203059202055c4b001bb14e900000a001,
  0xc4b001bb223100000a001,
  0x202055c4b001bb24ed00000a001,
  0xc4b001bbf4f100000b00a,
  0x20305920205524d041201051c4b001bb330100000a001,
  0x20305920205524d041201051c4b001bb430100000a001,
  0x217059216055215051c4b001bc722100000c001,
  0x62615da98061c4b001bbc2d12c500a007,
  0x217059216055215051c4b001bc722100000c001,
  0x217059216055215051c4b001bc722100000c001,
  0x21e05921d05521c051c4b001bc7251000009001,
  0x62815daab061c4b001bbc2d52c600c007,
  0x21e05921d05521c051c4b001bc7251000009001,
  0x21e05921d05521c051c4b001bc7251000009001,
  0xc4b001b8823500000c001,
  0xc4b001bae23500000c001,
  0x21705921605524f041215051c4b001baf30500000c001,
  0x217059216055215bb0052c4b001bb022100000c001,
  0x217059216055c4b001bb14f500000c001,
  0xc4b001bb223500000c001,
  0x216055c4b001bb24f900000c001,
  0x21705921605524f041215051c4b001bb330500000c001,
  0x21705921605524f041215051c4b001bb430500000c001,
  0x62a15dabd061c4b001bbc2d92c7009007,
  0x1db0c9afb0d5afc0c1aff0a5c4b0012c800b001,
  0xaf11852561c51d41c1c4b0012c900b00d,
  0x23305923205549305d17004d253041231051176039c4b0012ca00c001,
  0xaf11852561c51d41c1c4b0012cb00b00d,
  0x23305923205545305d17004d253041231051179039c4b0012cc00c001,
  0x23305923205555705d17004d25304123105117c039c4b0012cd00c001,
  0x23305923205556705d17004d25304123105117f039c4b0012ce00c001,
  0x23305923205540805d17004d253041231051182039c4b0012cf00c001,
  0x2330592320554e205d17004d253041231051185039c4b0012d000c001,
  0x23305923205559105d17004d253041231051188039c4b0012d100c001,
  0x2330592320555ca05d17004d25304123105118b039c4b0012d200c001,
  0x2330592320555d805d17004d25304123105118e039c4b0012d300c001,
  0x6e3019a404fd851061c4b0012d400b007,
  0xc4b001bc93817421612d500d000]

/-- States 1856 to 1919. -/
def rows29 : List Nat := [
  0x20f05920e0558e204d24e04120d0511c8039c4b0012d600b001,
  0x41c0693470a1b020a5156039c4b0012d7009001,
  0xc4b001bca381742c4ebca1622d500d000,
  0x7720199e6015866005c4b0012d800b001,
  0x2d30a1a540a51ee041bcb03dc4b0012d900a001,
  0x1e70591e60551e50411e4051c4b001bcc255000008001,
  0x2d30a1a540a51ee041bcd03dc4b0012da00a001,
  0x1e70591e60551e50411e4051c4b001bce255000008001,
  0x20f05920e05506104d24e04120d0511cf039c4b0012db00b001,
  0x22c05922b05525204122a05111903953503dc4b0012dc00a001,
  0x2330592320551a204d253041231051c4b001b1711500000c001,
  0x203059202055201051c4b001bcf1b500000a001,
  0x2d3c4ebd00a2a54c4ebd00a61eec4ebd0042bd003dc4b0012da00a001,
  0x20f05920e05506704d24e04120d0511cf039c4b0012db00b001,
  0x23305923205517004d253041231051c4b001bd111500000c001,
  0x2330592320551a404d253041231051c4b001b2111500000c001,
  0xc4b0019fe0b1bc814500000b001,
  0xc4b0019ff0b1bd214500000b001,
  0x22c05922b05525204122a0511aa039bba03dc4b0012dd00a001,
  0x3450a1b000a523b041bcb05dc4b0012de00c001,
  0x3450a1b000a523b041bcd05dc4b0012df00c001,
  0x217059216055215051c4b001bcf1b900000c001,
  0xbd005d345c4ebd00a2b00c4ebd00a623bc4ebd0042c4b0012df00c001,
  0x6dc00dc4b001bc8149247006001,
  0xa98061c4b001bbc2d12c500a007,
  0x233059232055253041231051bba05d1ae039c4b0012e000c001,
  0xa98061c4b001bbd2d12e100a007,
  0x3470a1b020a5241041bcb069c4b0012e2009001,
  0xa98c4ebbf062c4b001bbf2d12e100a007,
  0x3470a1b020a5241041bcd069c4b0012e3009001,
  0x21e05921d05521c051c4b001bcf1bd000009001,
  0xbd0069347c4ebd00a2b02c4ebd00a6241c4ebd0042c4b0012e3009001,
  0x6de00dc4b001bc814d250007001,
  0xaab061c4b001bbc2d52c600c007,
  0xaab061c4b001bbd2d52e400c007,
  0xaabc4ebbf062c4b001bbf2d52e400c007,
  0x6da00dc4b001bc815923a005001,
  0xabd061c4b001bbc2d92c7009007,
  0xabd061c4b001bbd2d92e5009007,
  0xabdc4ebbf062c4b001bbf2d92e5009007,
  0x5120693470a1b020a515b039c4b0012e6009001,
  0x52d0693470a1b020a515e039c4b0012e7009001,
  0x54c0693470a1b020a5161039c4b0012e8009001,
  0x4b60693470a1b020a5163039c4b0012e9009001,
  0x4d10693470a1b020a5165039c4b0012ea009001,
  0x5810693470a1b020a5167039c4b0012eb009001,
  0x5ba0693470a1b020a5169039c4b0012ec009001,
  0x20f05920e05595604d24e04120d0511d3039c4b0012ed00b001,
  0x20f05920e05507c04d24e04120d0511cf039c4b0012db00b001,
  0x20f05920e05508204d24e04120d0511cf039c4b0012db00b001,
  0xa51061c4b001bbc3092ee008007,
  0x20f05920e05524e04120d051c4b001bb514100000b001,
  0x1dbc4ebd30cac4b001bd35012ef00b001,
  0xa51061c4b001bbd3092f0008007,
  0x22c05922b05525204122a051c4b001bd411100000a001,
  0x1e70591e60551e50411e4051c4b001bd5105000008001,
  0x225059224055251041223051c4b001bd61ad000009001,
  0x1e70591e60551e50411e4051c4b001bc0105000008001,
  0xf20b50c315d0f104da83061c4b001bd710500000800a,
  0xc4b001bd81f100000d000,
  0xa51c4ebbf062c4b001bbf3092f0008007,
  0x22c05922b05525204122a051c4b001bd911100000a001,
  0x1e70591e60551e50411e4051c4b001bda105000008001,
  0x20f05920e05524e04120d051c4b001bdb14100000b001]

/-- States 1920 to 1983. -/
def rows30 : List Nat := [
  0xf60b578605d0f504d0ee039a9a061c4b0012f100c00a,
  0x20f05920e05524e04120d051c4b001bdc14100000b001,
  0xc4b001bdd1f100000d000,
  0xc4b001bdd1f100000d000,
  0xc4b001bdd1f100000d000,
  0x20f05920e05506904d24e0411fc0511fb039c4b00100000b001,
  0xc4b001bde38500000b00a,
  0x22c05922b05525204122a051c4b001bdf11100000a001,
  0x22c05922b05525204122a051c4b001be011100000a001,
  0x22c05922b05525204122a051c4b001be111100000a001,
  0x233059232055253041231051c4b001b2111500000c001,
  0xc4b001be21f100000d000,
  0xc4b001be21f100000d000,
  0xc4b001be21f100000d000,
  0x141039c4b001be31b52f200a001,
  0x5e8005c4b001bc814500000b001,
  0x6c04d246041a710515e4039c4b0012f300b001,
  0x6250b5c4b001be42252f400b001,
  0xc4b001be538500000b00a,
  0x20f05920e05524e04120d051c4b001be614100000b001,
  0x233059232055253041231051c4b001b2211500000c001,
  0xc4b001be71f100000d000,
  0x142039c4b001b0f1b52f500a001,
  0x143039c4b001b0f1b52f600a001,
  0x6250b5c4b001be82252f700b001,
  0x20f05920e055c4b001bb122500000b001,
  0x233059232055253041231051c4b001be911500000c001,
  0x144039c4b001b101b52f600a001,
  0x1a8c4ebea03ac4b001bea1b52f600a001,
  0x6250b5c4b001beb2252f400b001,
  0xc4b001bec1452f400b001,
  0x625c4ebec0b6c4b001bec2252f700b001,
  0x22c05922b05525204122a051c4b001bb511100000a001,
  0xc4b001bb71d500000800a,
  0x29b039c4b001b0a1e12f8009001,
  0x233059232055253041231051c4b001bd411500000c001,
  0x148039c4b001b121e12f9009001,
  0xc4b001b391d500000800a,
  0xc4b001bed1d500000800a,
  0x22c05922b05525204122a051c4b001bd611100000a001,
  0x22c05922b05525204122a051c4b001bc011100000a001,
  0x204c4ebbe03ac4b001bbe1e12f9009001,
  0x233059232055253041231051c4b001bd911500000c001,
  0xc4b001bee1d500000800a,
  0xf20b50f104da83061c4b001bef50500000800a,
  0xc4b001bf01d500000800a,
  0x225059224055251041223051c4b001bc61ad000009001,
  0xf90b523c15d0f804daad061c4b001bf111100000a00a,
  0x22c05922b05525204122a051c4b001bdc11100000a001,
  0xc4b001bde1d500000800a,
  0x149039c4b001be31b92fa00c001,
  0xc4b001a290b1bc814900000a001,
  0xc4b001be51d500000800a,
  0x22c05922b05525204122a051c4b001be611100000a001,
  0x14a039c4b001b0f1b92fb00c001,
  0x14b039c4b001b0f1b92fc00c001,
  0xc4b001a2a0b1bd214900000a001,
  0x14c039c4b001b101b92fc00c001,
  0x1b4c4ebea03ac4b001bea1b92fc00c001,
  0x225059224055251041223051c4b001bd41ad000009001,
  0x233059232055253041231051c4b001bc011500000c001,
  0x22c05922b05525204122a051c4b001bbe11100000a001,
  0xc4b001bbf50900000a007,
  0x225059224055251041223051c4b001bd91ad000009001]

/-- States 1984 to 2047. -/
def rows31 : List Nat := [
  0x14f039c4b001be31bd2fd009001,
  0xc4b001a2d0b1bc814d00000c001,
  0x150039c4b001b0f1bd2fe009001,
  0x151039c4b001b0f1bd2ff009001,
  0xc4b001a2e0b1bd214d00000c001,
  0x152039c4b001b101bd2ff009001,
  0x1b9c4ebea03ac4b001bea1bd2ff009001,
  0xc4b001bb719100000a00a,
  0xc4b001b3919100000a00a,
  0xc4b001bed19100000a00a,
  0x34fc4eba703ac4b001ba71e12f8009001,
  0x233059232055253041231051c4b001bbe11500000c001,
  0xc4b001bbf50d00000c007,
  0xc4b001bee19100000a00a,
  0xf90b50f804daad061c4b001bef30d00000a00a,
  0xc4b001bf019100000a00a,
  0xc4b001bde19100000a00a,
  0xc4b001a310b1bc8159000009001,
  0xc4b001be519100000a00a,
  0xc4b001a320b1bd2159000009001,
  0x20f05920e05524e04120d051c4b001bbe14100000b001,
  0xc4b001bbf511000009007,
  0xf60b57b105d0f504d0ee039a9a061c4b00130000c00a,
  0xf60b582605d0f504d0ee039a9a061c4b00130100c00a,
  0xf60b57d005d0f504d0ee039a9a061c4b00130200c00a,
  0x20f05920e05508404d24e0411fc051258039c4b00100000b001,
  0xa520517e1039c4b001bf2105303008001,
  0x20f05920e05505804d24e04120d051c4b00100000b001,
  0x20f05920e05505904d24e04120d051c4b00100000b001,
  0xc4b001bb721500000b00a,
  0xe600905b04d0ea005c4b00130400b001,
  0x1e70591e60551e50411e40518610adc4b001000008001,
  0x8ef2dd77b06986215d7e804dc4b001305009001,
  0x772019c4b001bf3105306008001,
  0x772019865005c4b00130700b001,
  0x16e039c4b001b1229d308008001,
  0xc4b001b3921500000b00a,
  0xc4b001bed21500000b00a,
  0x20f05920e0551f213124e04120d051c4b00100000b001,
  0x1e8c4ebbe03ac4b001bbe29d308008001,
  0x7f23110e1011bf4069c4b00130900900e,
  0xc4b001bbf515000008007,
  0x772019c4b001bf5105306008001,
  0x772019c4b001bf5105306008001,
  0xc4b001bee21500000b00a,
  0xe90b50e704da59061c4b001bef51900000b00a,
  0xf20b50f104da83061c4b001bf610500000800a,
  0xc4b001bf021500000b00a,
  0x20f05920e05523904d24e04120d051c4b00100000b001,
  0xe90b51fa15da590610e704dbf1039c4b00100000b00a,
  0x7f43110e1011bf7069c4b00130a00900e,
  0x20f05920e05506a04d24e0411fd051c4b00100000b001,
  0x7f4c4ebf8312bf80690e1c4ebf8012c4b00130a00900e,
  0x20f05920e05506b04d24e04120d051c4b00100000b001,
  0xf60b50f504da9a061c4b001bf911500000c00a,
  0xc4b001bfa14500000b001,
  0xc4b001bfb14500000b001,
  0xc4b001bfc14500000b001,
  0xc4b001bfd14500000b001,
  0x804069611039c4b001bc828130b009001,
  0x6d04d2460415e5039c4b00130c00b001,
  0x20f05920e05506f04d24e04120d051c4b00100000b001,
  0x20f05920e055c4b001bb151d00000b001,
  0xc4b001bfe21d00000a001]

/-- States 2048 to 2111. -/
def rows32 : List Nat := [
  0xc4b001bea21d00000a001,
  0xc4b001bff14500000b001,
  0xc4b001c0014500000b001,
  0xc4b001c0114500000b001,
  0xc4b001c0114500000b001,
  0xc4b001c0214500000b001,
  0xc4b001c0314500000b001,
  0xc4b001c0421d00000a001,
  0xc4b001c0514500000b001,
  0xc4b001c0614500000b001,
  0xc4b001c0714500000b001,
  0xc4b001c0814500000b001,
  0xc4b001c0814500000b001,
  0xc4b001c0814500000b001,
  0xc4b001c0814500000b001,
  0xc4b001c0914500000b001,
  0xc4b001c0a14500000b001,
  0xc4b001c0b14500000b001,
  0xc4b001c0c14500000b001,
  0xc4b001c0c14500000b001,
  0xc4b001c0d14500000b001,
  0xc4b001c0e14500000b001,
  0xf90b50f804daad061c4b001bf111100000a00a,
  0x5f1005c4b001bc814900000a001,
  0x6270b5c4b001be425930d00a001,
  0x6270b5c4b001be825930e00a001,
  0xc4b001bfe22100000c001,
  0xc4b001bea22100000c001,
  0x6270b5c4b001beb25930d00a001,
  0xc4b001bec14930d00a001,
  0x627c4ebec0b6c4b001bec25930e00a001,
  0xc4b001c0422100000c001,
  0xc4b001bb719500000c00a,
  0xc4b001b3919500000c00a,
  0xc4b001bed19500000c00a,
  0xc4b001bee19500000c00a,
  0xf60b50f504da9a061c4b001bef11500000c00a,
  0xc4b001bf019500000c00a,
  0xc4b001bde19500000c00a,
  0x5fa005c4b001bc814d00000c001,
  0x6290b5c4b001be425d30f00c001,
  0xc4b001be519500000c00a,
  0x6290b5c4b001be825d31000c001,
  0xc4b001bfe251000009001,
  0xc4b001bea251000009001,
  0x6290b5c4b001beb25d30f00c001,
  0xc4b001bec14d30f00c001,
  0x629c4ebec0b6c4b001bec25d31000c001,
  0xc4b001c04251000009001,
  0xc4b001b26165000009001,
  0xc4b001bba165000009001,
  0xc4b001ba8165000009001,
  0xc4b001ba9165000009001,
  0xc4b001ba7165000009001,
  0x20f05920e05524e04120d051bcf04dc4b00100000b001,
  0x603005c4b001bc8159000009001,
  0x62b0b5c4b001be4261311009001,
  0xc4b001bfb521000009001,
  0x62b0b5c4b001be8261312009001,
  0x62b0b5c4b001beb261311009001,
  0xc4b001bec159311009001,
  0x62bc4ebec0b6c4b001bec261312009001,
  0x95d2dd9280698c215d7e804dc4b001313009001,
  0x20f05920e05520813124e04120d051c4b00100000b001]

/-- States 2112 to 2175. -/
def rows33 : List Nat := [
  0x882069616039c4b001bc8281314009001,
  0x20f05920e05521213124e04120d051c4b00100000b001,
  0x89a06961b039c4b001bc8281315009001,
  0x20f05920e05521913124e04120d051c4b00100000b001,
  0x8b1069620039c4b001bc8281316009001,
  0x20f05920e05522013124e04120d051c4b00100000b001,
  0x20f05920e05522713124e04120d051c4b00100000b001,
  0x20f05920e05522e13124e04120d051c4b00100000b001,
  0x20f05920e05523513124e04120d051c4b00100000b001,
  0x20f05920e05507304d24e04120d051c4b00100000b001,
  0x20f05920e05507404d24e04120d051c4b00100000b001,
  0xe600907604d0ea005c4b00131700b001,
  0x20f05920e05508504d24e0411fd051c4b00100000b001,
  0x20f05920e05508604d24e04120d051c4b00100000b001,
  0x20f05920e05508704d24e04120d051c4b00100000b001,
  0x772019c4b00131800b001,
  0x7e1039c4b001bf2105319008001,
  0x85a061c4b001c0f38931a00b007,
  0x196039c4b001c1010531b008001,
  0xe6009684005c4b00131c00b001,
  0xa58039c4b001c1110531d008001,
  0xa58039c4b001c1210531e008001,
  0xe90b50e815d0e704da59061c4b00100000b00a,
  0x19a039c4b001b19105308008001,
  0x7ea039c4b001bf310531f008001,
  0x7eb039c4b001bf310531f008001,
  0x85ac4ec13062c4b001c1338931a00b007,
  0x19b039c4b001b1a105320008001,
  0x19c039c4b001b1b105320008001,
  0x1e8039c4b001c14105308008001,
  0xe6009684005c4b00132100b001,
  0xa58039c4b001c15105322008001,
  0xa58039c4b001c16105322008001,
  0xc4b001c1752500000b001,
  0x9022dd7820697e804dc4b001323009001,
  0xa52051c4b001c18255000008001,
  0x903c4ec1903ac4b001c1910531f008001,
  0x758019c4b00132400b001,
  0x758019c4b00132500b001,
  0x1f5c4ebce03ac4b001bce105320008001,
  0x60a2852dd0d9c4b00132600e001,
  0xa58c4ec1a03ac4b001c1a105322008001,
  0xe90b5a590610e704dbf1039c4b00100000b00a,
  0x60a2852ea0d9c4b00132700e001,
  0x1e8039c4b001c1b105308008001,
  0xc4b001be422500000b001,
  0x60ac4ec1c286c1c0d9c4b00132700e001,
  0xa8c0515e903980103dc4b00132800a001,
  0x80205da9f0515ea039c4b00132900c001,
  0xa8c0515ed03980f03dc4b00132a00a001,
  0xa71051c4b001c1d52900000b001,
  0xc4b001c1e22500000b001,
  0x60cc4ec1d03ac4b001c1d52d32b00b001,
  0xc4b001c1f1adbc8281000009001,
  0xa81051878039bf203dc4b00132c00a001,
  0x23a15d0f304dc4b001c2011100000a001,
  0x758019bf303dc4b00132d00a001,
  0x758019bf503dc4b00132d00a001,
  0x758019bf503dc4b00132d00a001,
  0xc4b001bfa14900000a001,
  0xc4b001bfb14900000a001,
  0xc4b001bfc14900000a001,
  0xc4b001bfd14900000a001,
  0xc4b001bff14900000a001]

/-- States 2176 to 2239. -/
def rows34 : List Nat := [
  0xc4b001c0014900000a001,
  0xc4b001c0114900000a001,
  0xc4b001c0114900000a001,
  0xc4b001c0214900000a001,
  0xc4b001c0314900000a001,
  0xc4b001c0514900000a001,
  0xc4b001c0614900000a001,
  0xc4b001c0714900000a001,
  0xc4b001c0814900000a001,
  0xc4b001c0814900000a001,
  0xc4b001c0814900000a001,
  0xc4b001c0814900000a001,
  0xc4b001c0914900000a001,
  0xc4b001c0a14900000a001,
  0xc4b001c0b14900000a001,
  0xc4b001c0c14900000a001,
  0xc4b001c0c14900000a001,
  0xc4b001c0d14900000a001,
  0xc4b001c0e14900000a001,
  0xc4b001bfa14d00000c001,
  0xc4b001bfb14d00000c001,
  0xc4b001bfc14d00000c001,
  0xc4b001bfd14d00000c001,
  0xc4b001bff14d00000c001,
  0xc4b001c0014d00000c001,
  0xc4b001c0114d00000c001,
  0xc4b001c0114d00000c001,
  0xc4b001c0214d00000c001,
  0xc4b001c0314d00000c001,
  0xc4b001c0514d00000c001,
  0xc4b001c0614d00000c001,
  0xc4b001c0714d00000c001,
  0xc4b001c0814d00000c001,
  0xc4b001c0814d00000c001,
  0xc4b001c0814d00000c001,
  0xc4b001c0814d00000c001,
  0xc4b001c0914d00000c001,
  0xc4b001c0a14d00000c001,
  0xc4b001c0b14d00000c001,
  0xc4b001c0c14d00000c001,
  0xc4b001c0c14d00000c001,
  0xc4b001c0d14d00000c001,
  0xc4b001c0e14d00000c001,
  0xc4b001bfa159000009001,
  0xc4b001bfc159000009001,
  0xc4b001bfd159000009001,
  0xc4b001bff159000009001,
  0xc4b001c00159000009001,
  0xc4b001c01159000009001,
  0xc4b001c01159000009001,
  0xc4b001c02159000009001,
  0xc4b001c03159000009001,
  0xc4b001c05159000009001,
  0xc4b001c06159000009001,
  0xc4b001c07159000009001,
  0xc4b001c08159000009001,
  0xc4b001c08159000009001,
  0xc4b001c08159000009001,
  0xc4b001c08159000009001,
  0xc4b001c09159000009001,
  0xc4b001c0a159000009001,
  0xc4b001c0b159000009001,
  0xc4b001c0c159000009001,
  0xc4b001c0c159000009001]

/-- States 2240 to 2303. -/
def rows35 : List Nat := [
  0xc4b001c0d159000009001,
  0xc4b001c0e159000009001,
  0x9632dd9300697e804dc4b00132e009001,
  0x60a2853170d9c4b00132f00e001,
  0x60a2853240d9c4b00132700e001,
  0xa8c0515f203987f03dc4b00133000a001,
  0x88005da9f0515f3039c4b00133100c001,
  0xa8c0515f603988c03dc4b00133200a001,
  0xa8c0515fb03989703dc4b00133300a001,
  0x89805da9f0515fc039c4b00133400c001,
  0xa8c0515ff0398a403dc4b00133500a001,
  0xa8c0516040398ae03dc4b00133600a001,
  0x8af05da9f051605039c4b00133700c001,
  0xa8c0516080398bb03dc4b00133800a001,
  0xe6009684005c4b00133900b001,
  0xe6009684005c4b00133a00b001,
  0x8917d27f0adc4b00133b008001,
  0x6e3019c2106dc4b00133c00b001,
  0x13e039bad03dc4b00133d00a001,
  0x2d2039c2203dc4b00133e00a001,
  0x13e03941903dc4b00133d00a001,
  0x1e9065c4b001bbb105000008001,
  0x1c913930b039c4b00133f00b001,
  0x198039c2304dc4b00134000b001,
  0x1ea139c4b001c24105000008001,
  0x41c069156039c4b001341009001,
  0x1ec15dc4b001c2014100000b001,
  0x686039c2504dc4b00134200b001,
  0x1ec15dc4b001c2014100000b001,
  0x8a17d2800adc4b001343008001,
  0x13e0399e903dc4b00133d00a001,
  0x13e0399ea03dc4b00133d00a001,
  0x13f039b0d03dc4b00134400a001,
  0x2d4039b5703dc4b00134500a001,
  0x8681012d60adc4b00134600f001,
  0x8f504d1ca039c4b00134700b001,
  0x1cb13930b039c4b00133f00b001,
  0x19d039a6303dc4b00134800a001,
  0x19e039b1c04dc4b00134900b001,
  0x5e04d0ea005c4b00134a00b001,
  0x424069157039c4b00134b009001,
  0xc4b001b2f53100000b001,
  0x687039bab04dc4b00134c00b001,
  0x99c4ec2617ec260adc4b001343008001,
  0x10b03942703dc4b00134d00a001,
  0x10c03942803dc4b00134e00a001,
  0x27205d16f039c4b00134f00c001,
  0x7830697e804dc4b001350009001,
  0xc4b001c18255000008001,
  0xc4b001c27255000008001,
  0x158c4ebd903abd903dc4b00134400a001,
  0x1a013930b039c4b00133f00b001,
  0x8681012d60adc4b00135100f001,
  0x8681012d60adc4b00135200f001,
  0xbdb04d1f7c4ebdb03ac4b00134700b001,
  0xc4b001b4728900000b00d,
  0x1a1039a6d03dc4b00135300a001,
  0xc2804d1cdc4ec2803ac4b00134900b001,
  0xc4b001c1a255000008001,
  0xc29069171c4ec2903ac4b00134b009001,
  0xc2a04d68ac4ec2a03ac4b00134c00b001,
  0x10d03942a03dc4b00135400a001,
  0x10e03942b03dc4b00135400a001,
  0x27405d172039c4b00135500c001]

end CallContext.Automaton
