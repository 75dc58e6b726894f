/-!
# Packed rows of the automaton, states 576 to 1151

One number a state; `CallContext.Row.ofCode` says how to read it.
-/

namespace CallContext.Automaton

/-- States 576 to 639. -/
def rows09 : List Nat := [
  0xa602144901967f03524902d0d301113900944801d3b70151320056da00dc4b0013bd0254470314c5029182001001,
  0xa502144401967e03524702d0d001111700944301d3c20151380056d800dc4b0013bb0254420314a3029183001001,
  0xa202147d01967f03524902d0d301113900947c01d3b70151320056da00dc4b0013bd02547b0314c5029184001001,
  0xb502157901968103524c02d0d901113300957801d3be0151240056de00dc4b0013c10255770315b0029102001001,
  0xb20214c901967d03524402d0cd01112c0094c801d3c001512b0056d600dc4b0013b80254c703153c029185001001,
  0xaa0215a601968003524b02d0d601111e0095a501d3ba0151160056dc00dc4b0013bf0255a4031574029186001001,
  0xa402148d01967c03523f02d0ca01110900948c01d3b00151080056d200dc4b0013b502548b031524029187001001,
  0xa502144401967e03524702d0d001111700944301d3c20151380056d800dc4b0013bb0254420314a3029188001001,
  0xad0215a901968103524c02d0d90111330095a801d3be0151240056de00dc4b0013c10255a70315b0029189001001,
  0xa202147d01967f03524902d0d301113900947c01d3b70151320056da00dc4b0013bd02547b0314c502918a001001,
  0xa60215ac01967f03524902d0d30111390095ab01d3b70151320056da00dc4b0013bd0255aa0314c502918b001001,
  0xa70214ac01968003524b02d0d601111e0094ab01d3ba0151160056dc00dc4b0013bf0254aa03157402918c001001,
  0xb502157901968103524c02d0d901113300957801d3be0151240056de00dc4b0013c10255770315b002918d001001,
  0xa402148d01967c03523f02d0ca01110900948c01d3b00151080056d200dc4b0013b502548b03152402918e001001,
  0xa402148d01967c03523f02d0ca01110900948c01d3b00151080056d200dc4b0013b502548b03152402918f001001,
  0xa402148d01967c03523f02d0ca01110900948c01d3b00151080056d200dc4b0013b502548b031524029190001001,
  0xa402148d01967c03523f02d0ca01110900948c01d3b00151080056d200dc4b0013b502548b031524029191001001,
  0xa402148d01967c03523f02d0ca01110900948c01d3b00151080056d200dc4b0013b502548b031524029192001001,
  0xa402148d01967c03523f02d0ca01110900948c01d3b00151080056d200dc4b0013b502548b031524029193001001,
  0xa402148d01967c03523f02d0ca01110900948c01d3b00151080056d200dc4b0013b502548b031524029194001001,
  0xa402148d01967c03523f02d0ca01110900948c01d3b00151080056d200dc4b0013b502548b031524029195001001,
  0xa402148d01967c03523f02d0ca01110900948c01d3b00151080056d200dc4b0013b502548b031524029196001001,
  0xa402148d01967c03523f02d0ca01110900948c01d3b00151080056d200dc4b0013b502548b031524029197001001,
  0xa402148d01967c03523f02d0ca01110900948c01d3b00151080056d200dc4b0013b502548b031524029198001001,
  0xa402148d01967c03523f02d0ca01110900948c01d3b00151080056d200dc4b0013b502548b031524029199001001,
  0xe6009b250a9c4b001b27b26142b261b1b273b519a008007,
  0xb27b2603ab250a9c4b001b26169b27181000008007,
  0xa6b1311f61c9c4b001b280f519b001001,
  0xa6b1311f61c9c4b001b290f519c001001,
  0xa6b1311f61c9c4b001b2a0f519d001001,
  0x1ccc4eb2b1c2c4b001b2b34d19e001008,
  0x1efc4eb2c1c6c4b001b2c34d19f001009,
  0xa6b1311f61c9c4b001b2d0f51a0001001,
  0xaf41312571c9c4b001b280f91a1002001,
  0xaf41312571c9c4b001b290f91a2002001,
  0xaf41312571c9c4b001b2a0f91a3002001,
  0x1d4c4eb2b1c2c4b001b2b3511a4002008,
  0x256c4eb2c1c6c4b001b2c3511a5002009,
  0xaf41312571c9c4b001b2d0f91a6002001,
  0xb08b0703ab060a9c4b001b07169b08181000008007,
  0xb08b0703ab060a9c4b001b07169b08181000008007,
  0xb060a9c4b001b08b07142b071b1b08181000008007,
  0xb2eb2603ac4b001b26169b2e18100000800a,
  0xb27b2603ac4b001b26169b2718100000800a,
  0xb30b2f03ac4b001b2f169b3018100000800a,
  0xc4b001b09b080c6b0929500000800a,
  0xc4b001b09b080c6b0929500000800a,
  0xc4b001b31b270c6b3129500000800a,
  0xb33b3203ac4b001b32169b3318100000800a,
  0xc4b001b3420500000800a,
  0xc4b001b3520500000800a,
  0xc4b001b3620500000800a,
  0xc4b001b3620500000800a,
  0xc4b001b3620500000800a,
  0x1f6c4eb371cac4b001b373b91a7001001,
  0xc4b001b3820500000800a,
  0xc4b001b3820500000800a,
  0x257c4eb371cac4b001b373bd1a8002001,
  0xc4b001b39355b31b27266b313c100000800a,
  0xc4b001b2eb26142b261b1b2e18100000800a,
  0xc4b001b27b26142b261b1b2718100000800a,
  0xc4b001b30b2f142b2f1b1b3018100000800a,
  0xc4b001b33b32142b321b1b3318100000800a,
  0xc4b001b3a269000001001]

/-- States 640 to 703. -/
def rows10 : List Nat := [
  0xc4b001b3b269000001001,
  0xc4b001b3c269000001001,
  0xc4b001b3d1a1000001008,
  0xc4b001b3e1a1000001008,
  0xc4b001b3f1a1000001008,
  0xc4b001b401cd000001009,
  0xc4b001b411a1000001008,
  0xc4b001b421cd000001009,
  0xc4b001b431a1000001008,
  0xc4b001b441cd000001009,
  0xc4b001b451a1000001008,
  0xc4b001b461cd000001009,
  0xc4b001b47269000001001,
  0xc4b001b48269000001001,
  0xc4b001b3d1a5000002008,
  0xc4b001b3e1a5000002008,
  0xc4b001b3f1a5000002008,
  0xc4b001b401d1000002009,
  0xc4b001b411a5000002008,
  0xc4b001b421d1000002009,
  0xc4b001b431a5000002008,
  0xc4b001b441d1000002009,
  0xc4b001b451a5000002008,
  0xc4b001b461d1000002009,
  0xc4b001b3a26d000002001,
  0x1530216350190ca0110db00963101d3c40150d40056d200dc4b0013b5025630031b0a1e15240291a9005001,
  0xc4b001b3b26d000002001,
  0x1530216350190ca0110db00963101d3c40150d40056d200dc4b0013b5025630031b0b1e15240291a9005001,
  0xc4b001b471a1000001008,
  0xc4b001b3c26d000002001,
  0xc4b001b481a1000001008,
  0xc4b001b3a1a1000001008,
  0xc4b001b3b1a1000001008,
  0xc4b001b471cd000001009,
  0xc4b001b3c1a1000001008,
  0xc4b001b481cd000001009,
  0xc4b001b3a1cd000001009,
  0xc4b001b3b1cd000001009,
  0xc4b001b4726d000002001,
  0xc4b001b3c1cd000001009,
  0xc4b001b4826d000002001,
  0xc4b001b3a1a5000002008,
  0xc4b001b3b1a5000002008,
  0xc4b001b471a5000002008,
  0xc4b001b3c1a5000002008,
  0xc4b001b481a5000002008,
  0xc4b001b3a1d1000002009,
  0xc4b001b3b1d1000002009,
  0xc4b001b471d1000002009,
  0xc4b001b3c1d1000002009,
  0xc4b001b481d1000002009,
  0xa6b131c4b001b490f51aa001001,
  0xc4b001b4a2e9000001001,
  0xa6b131c4b001b4b0f51ab001001,
  0xa62185c4b001b4c0f51ac001001,
  0xa6b131c4b001b4d0f51ad001001,
  0xa62185c4b001b4e0f51ae001001,
  0xa6b131c4b001b4f0f51af001001,
  0xa6b131c4b001b500f51b0001001,
  0xc4b001b512e9000001001,
  0xa6b131c4b001b520f51b1001001,
  0xc4b001b532e9000001001,
  0xaf4131c4b001b490f91b2002001,
  0xc4b001b4a2ed000002001]

/-- States 704 to 767. -/
def rows11 : List Nat := [
  0xaf4131c4b001b4b0f91b3002001,
  0xaf1185c4b001b4c0f91b4002001,
  0xaf4131c4b001b4d0f91b5002001,
  0xaf1185c4b001b4e0f91b6002001,
  0xaf4131c4b001b4f0f91b7002001,
  0xaf4131c4b001b500f91b8002001,
  0xc4b001b512ed000002001,
  0xaf4131c4b001b520f91b9002001,
  0xc4b001b532ed000002001,
  0x1a902165f0190ca0110d200965101d3c50158e903d0cb0056d200dc4b0013b50256500315240291ba006001,
  0xc4b001b54359000001001,
  0xc4b001b55359000001001,
  0xc4b001b5435d000002001,
  0xc4b001b5535d000002001,
  0x1a902165f0190ca0110d200965101d3c501592403d0cb0056d200dc4b0013b50256500315240291bb006001,
  0x1930216530190ca0110c900964c01d3b00150c40056d200dc4b0013b502564b0315240291bc001001,
  0x1930216530190ca0110c900964c01d3b00150c40056d200dc4b0013b502564b0315240291bd001001,
  0xc4b001b560f5000001001,
  0x1a902165f0190ca0110d200965101d3c50150cb0056d200db5703dc4b0013b50256500315240291be006001,
  0x1930216530190ca0110c900964c01d3b00150c40056d200dc4b0013b502564b0315240291bf001001,
  0x1a902165f0190ca0110d200965101d3c50150cb0056d200db5803dc4b0013b50256500315240291be006001,
  0x1930216530190ca0110c900964c01d3b00150c40056d200dc4b0013b502564b0315240291c0001001,
  0xc4b001b590f5000001001,
  0xc4b001b5a0f5000001001,
  0xc4b001b230f5000001001,
  0xc4b001b5b0f5000001001,
  0xc4b001b5c0f5000001001,
  0xc4b001b290f5000001001,
  0xc4b001b5d0f5000001001,
  0xc4b001b5e0f5000001001,
  0xc4b001b5d0f5000001001,
  0xc4b001b5f0f5000001001,
  0xc4b001b600f5000001001,
  0xc4b001b4c0f5000001001,
  0xc4b001b240f5000001001,
  0xc4b001b610f5000001001,
  0xc4b001b620f5000001001,
  0xc4b001b630f5000001001,
  0xc4b001b640f5000001001,
  0xc4b001b640f5000001001,
  0xc4b001b650f5000001001,
  0xc4b001b2d0f5000001001,
  0xc4b001b660f5000001001,
  0xc4b001b670f5000001001,
  0xc4b001b680f5000001001,
  0xc4b001b690f5000001001,
  0xc4b001b6a0f5000001001,
  0xc4b001b6b0f5000001001,
  0xc4b001b6c0f5000001001,
  0xc4b001b4e0f5000001001,
  0xc4b001b6d0f5000001001,
  0xc4b001b6e0f5000001001,
  0xc4b001b6f0f5000001001,
  0xc4b001b700f5000001001,
  0xc4b001b6f0f5000001001,
  0xc4b001b710f5000001001,
  0xc4b001b720f5000001001,
  0xc4b001b730f5000001001,
  0xc4b001b740f5000001001,
  0xc4b001b750f5000001001,
  0xc4b001b760f5000001001,
  0xc4b001b770f5000001001,
  0xc4b001b780f5000001001,
  0xc4b001b790f5000001001]

/-- States 768 to 831. -/
def rows12 : List Nat := [
  0xc4b001b7a0f5000001001,
  0xc4b001b7b0f5000001001,
  0xc4b001b7c0f5000001001,
  0xc4b001b7d0f5000001001,
  0xc4b001b7e0f5000001001,
  0xc4b001b7f0f5000001001,
  0xc4b001b800f5000001001,
  0xc4b001b810f5000001001,
  0xc4b001b820f5000001001,
  0xc4b001b830f5000001001,
  0xc4b001b840f5000001001,
  0x1930216530190ca0110c900964c01d3b00150c40056d200db0a139c4b0013b502564b0315240291c1001001,
  0xc4b001b560f9000002001,
  0x1ad0216640190ca0110d800965901d3c60150d10056d200db5705dc4b0013b50256580315240291c2007001,
  0x1930216530190ca0110c900964c01d3b00150c40056d200db0b139c4b0013b502564b0315240291c1001001,
  0x1ad0216640190ca0110d800965901d3c60150d10056d200db5805dc4b0013b50256580315240291c2007001,
  0xc4b001b590f9000002001,
  0xc4b001b5a0f9000002001,
  0xc4b001b230f9000002001,
  0xc4b001b5b0f9000002001,
  0xc4b001b5c0f9000002001,
  0xc4b001b290f9000002001,
  0xc4b001b5d0f9000002001,
  0xc4b001b5e0f9000002001,
  0xc4b001b5d0f9000002001,
  0xc4b001b5f0f9000002001,
  0xc4b001b600f9000002001,
  0xc4b001b4c0f9000002001,
  0xc4b001b240f9000002001,
  0xc4b001b610f9000002001,
  0xc4b001b620f9000002001,
  0xc4b001b630f9000002001,
  0xc4b001b640f9000002001,
  0xc4b001b640f9000002001,
  0xc4b001b650f9000002001,
  0xc4b001b2d0f9000002001,
  0xc4b001b660f9000002001,
  0xc4b001b670f9000002001,
  0xc4b001b680f9000002001,
  0xc4b001b690f9000002001,
  0xc4b001b6a0f9000002001,
  0xc4b001b6b0f9000002001,
  0xc4b001b6c0f9000002001,
  0xc4b001b4e0f9000002001,
  0xc4b001b6d0f9000002001,
  0xc4b001b6e0f9000002001,
  0xc4b001b6f0f9000002001,
  0xc4b001b700f9000002001,
  0xc4b001b6f0f9000002001,
  0xc4b001b710f9000002001,
  0xc4b001b720f9000002001,
  0xc4b001b730f9000002001,
  0xc4b001b740f9000002001,
  0xc4b001b750f9000002001,
  0xc4b001b760f9000002001,
  0xc4b001b770f9000002001,
  0xc4b001b780f9000002001,
  0xc4b001b790f9000002001,
  0xc4b001b7a0f9000002001,
  0xc4b001b7b0f9000002001,
  0xc4b001b7c0f9000002001,
  0xc4b001b7d0f9000002001,
  0xc4b001b7e0f9000002001,
  0xc4b001b7f0f9000002001]

/-- States 832 to 895. -/
def rows13 : List Nat := [
  0xc4b001b800f9000002001,
  0xc4b001b810f9000002001,
  0xc4b001b820f9000002001,
  0xc4b001b830f9000002001,
  0xc4b001b840f9000002001,
  0x1930216530190ca0110c900964c01d3b00150c40056d200dc4b0013b502564b0315240291c3001001,
  0x1930216530190ca0110c900964c01d3b00150c40056d200dc4b0013b502564b0315240291c4001001,
  0x1930216530190ca0110c900964c01d3b00150c40056d200dc4b0013b502564b0315240291c5001001,
  0x1930216530190ca0110c900964c01d3b00150c40056d200dc4b0013b502564b0315240291c6001001,
  0x1930216530190ca0110c900964c01d3b00150c40056d200dc4b0013b502564b0315240291c7001001,
  0x1930216530190ca0110c900964c01d3b00150c40056d200dc4b0013b502564b0315240291c8001001,
  0xbb0215d40190ca0110d50095d201d3c30150ce0056d200dc4b0013b50255d10315240290a8001001,
  0x1930216530190ca0110c900964c01d3b00150c40056d200dc4b0013b502564b0315240291c1001001,
  0x1a902165f0190ca0110d200965101d3c50150cb0056d200dc4b0013b50256500315240291be001001,
  0x1ad0216640190ca0110d800965901d3c60150d10056d200dc4b0013b50256580315240291c2001001,
  0x1530216350190ca0110db00963101d3c40150d40056d200dc4b0013b50256300315240291a9001001,
  0xb302159d0190ca0110dc00957101d35b0150d70056d200dc4b0013b50255700315240290a4001001,
  0x1ac0216620190ca01110900965701d3b00151080056d200dc4b001b851413b50256560315240291c9001001,
  0x1750216490190ca01110900964801d3b00151080056d200dc4b001b851113b50256470315240291ca006001,
  0x9e02136802d0bf01111000941601d3b401510f0056b700dc4b00135c02541503141409d1cb001001,
  0xb802137302d0c601112500950b01d3bc01511d0056d000dc4b0013b102550a03150209d1cc001001,
  0xaf02137d02d0ca01110900952701d3b00151080056d200dc4b0013b502552603152409d1cd001001,
  0xb902138702d0cd01112c00954301d3c001512b0056d600dc4b0013b802554203153c09d1ce001001,
  0xb102139102d0d00111170094af01d3c20151380056d800dc4b0013bb0254ae0314a309d1cf001001,
  0xa902139b02d0d30111390094cb01d3b70151320056da00dc4b0013bd0254ca0314c509d1d0001001,
  0xb60213a502d0d601111e00957b01d3ba0151160056dc00dc4b0013bf02557a03157409d1d1001001,
  0xba0213af02d0d90111330095b401d3be0151240056de00dc4b0013c10255b30315b009d1d2001001,
  0x9c02126f0190ca01110900926e01d3b00151080056d200dc4b0013b502526d0315240291d3001001,
  0x9e0210bf01111000941601d3b401510f0056b700dc4b00135c02541503141409d1d4001001,
  0xac0215a20190ca01110900950701d3b00151080056d200dc4b0013b50255060315240291d5001001,
  0x19902164f0190ca01110900964e01d3b00151080056d200dc4b0013b502564d0315240291d6001001,
  0x9e0210bf01111000941601d3b401510f0056b700dc4b00135c02541503141409d1d7001001,
  0x9e0210bf01111000941601d3b401510f0056b700dc4b00135c02541503141409d1d8001001,
  0x9e0210bf01111000941601d3b401510f0056b700dc4b00135c02541503141409d1cb001001,
  0x9e0210bf01111000941601d3b401510f0056b700dc4b00135c02541503141409d1d9001001,
  0x9e0210bf01111000941601d3b401510f0056b700dc4b00135c02541503141409d1da001001,
  0x9e0210bf01111000941601d3b401510f0056b700dc4b00135c02541503141409d1db001001,
  0x9e0210bf01111000941601d3b401510f0056b700dc4b00135c02541503141409d1dc001001,
  0x9e0210bf01111000941601d3b401510f0056b700dc4b00135c02541503141409d1dd001001,
  0x9e0210bf01111000941601d3b401510f0056b700dc4b00135c02541503141409d1de001001,
  0x9e0210bf01111000941601d3b401510f0056b700dc4b00135c02541503141409d1df001001,
  0x9c02127a0190ca01110900926e01d3b00151080056d200dc4b0013b502526d0315240291d3001001,
  0xb80210c601112500950b01d3bc01511d0056d000dc4b0013b102550a03150209d1e0001001,
  0xb80210c601112500950b01d3bc01511d0056d000dc4b0013b102550a03150209d1e1001001,
  0xb80210c601112500950b01d3bc01511d0056d000dc4b0013b102550a03150209d1cc001001,
  0xb80210c601112500950b01d3bc01511d0056d000dc4b0013b102550a03150209d1e2001001,
  0xb80210c601112500950b01d3bc01511d0056d000dc4b0013b102550a03150209d1e3001001,
  0xb80210c601112500950b01d3bc01511d0056d000dc4b0013b102550a03150209d1e4001001,
  0xb80210c601112500950b01d3bc01511d0056d000dc4b0013b102550a03150209d1e5001001,
  0xb80210c601112500950b01d3bc01511d0056d000dc4b0013b102550a03150209d1e6001001,
  0xb80210c601112500950b01d3bc01511d0056d000dc4b0013b102550a03150209d1e7001001,
  0xb80210c601112500950b01d3bc01511d0056d000dc4b0013b102550a03150209d1e8001001,
  0xaf0210ca01110900952701d3b00151080056d200dc4b0013b502552603152409d1e9001001,
  0xaf0210ca01110900952701d3b00151080056d200dc4b0013b502552603152409d1ea001001,
  0xaf0210ca01110900952701d3b00151080056d200dc4b0013b502552603152409d1cd001001,
  0xaf0210ca01110900952701d3b00151080056d200dc4b0013b502552603152409d1eb001001,
  0xaf0210ca01110900952701d3b00151080056d200dc4b0013b502552603152409d1ec001001,
  0xaf0210ca01110900952701d3b00151080056d200dc4b0013b502552603152409d1ed001001,
  0xaf0210ca01110900952701d3b00151080056d200dc4b0013b502552603152409d1ee001001,
  0xaf0210ca01110900952701d3b00151080056d200dc4b0013b502552603152409d1ef001001,
  0xaf0210ca01110900952701d3b00151080056d200dc4b0013b502552603152409d1f0001001,
  0xaf0210ca01110900952701d3b00151080056d200dc4b0013b502552603152409d1f1001001,
  0xb90210cd01112c00954301d3c001512b0056d600dc4b0013b802554203153c09d1f2001001,
  0xb90210cd01112c00954301d3c001512b0056d600dc4b0013b802554203153c09d1f3001001]

/-- States 896 to 959. -/
def rows14 : List Nat := [
  0xb90210cd01112c00954301d3c001512b0056d600dc4b0013b802554203153c09d1ce001001,
  0xb90210cd01112c00954301d3c001512b0056d600dc4b0013b802554203153c09d1f4001001,
  0xb90210cd01112c00954301d3c001512b0056d600dc4b0013b802554203153c09d1f5001001,
  0xb90210cd01112c00954301d3c001512b0056d600dc4b0013b802554203153c09d1f6001001,
  0xb90210cd01112c00954301d3c001512b0056d600dc4b0013b802554203153c09d1f7001001,
  0xb90210cd01112c00954301d3c001512b0056d600dc4b0013b802554203153c09d1f8001001,
  0xb90210cd01112c00954301d3c001512b0056d600dc4b0013b802554203153c09d1f9001001,
  0xb90210cd01112c00954301d3c001512b0056d600dc4b0013b802554203153c09d1fa001001,
  0xb10210d00111170094af01d3c20151380056d800dc4b0013bb0254ae0314a309d1fb001001,
  0xb10210d00111170094af01d3c20151380056d800dc4b0013bb0254ae0314a309d1fc001001,
  0xb10210d00111170094af01d3c20151380056d800dc4b0013bb0254ae0314a309d1cf001001,
  0xb10210d00111170094af01d3c20151380056d800dc4b0013bb0254ae0314a309d1fd001001,
  0xb10210d00111170094af01d3c20151380056d800dc4b0013bb0254ae0314a309d1fe001001,
  0xb10210d00111170094af01d3c20151380056d800dc4b0013bb0254ae0314a309d1ff001001,
  0xb10210d00111170094af01d3c20151380056d800dc4b0013bb0254ae0314a309d200001001,
  0xb10210d00111170094af01d3c20151380056d800dc4b0013bb0254ae0314a309d201001001,
  0xb10210d00111170094af01d3c20151380056d800dc4b0013bb0254ae0314a309d202001001,
  0xb10210d00111170094af01d3c20151380056d800dc4b0013bb0254ae0314a309d203001001,
  0xa90210d30111390094cb01d3b70151320056da00dc4b0013bd0254ca0314c509d204001001,
  0xa90210d30111390094cb01d3b70151320056da00dc4b0013bd0254ca0314c509d205001001,
  0xa90210d30111390094cb01d3b70151320056da00dc4b0013bd0254ca0314c509d1d0001001,
  0xa90210d30111390094cb01d3b70151320056da00dc4b0013bd0254ca0314c509d206001001,
  0xa90210d30111390094cb01d3b70151320056da00dc4b0013bd0254ca0314c509d207001001,
  0xa90210d30111390094cb01d3b70151320056da00dc4b0013bd0254ca0314c509d208001001,
  0xa90210d30111390094cb01d3b70151320056da00dc4b0013bd0254ca0314c509d209001001,
  0xa90210d30111390094cb01d3b70151320056da00dc4b0013bd0254ca0314c509d20a001001,
  0xa90210d30111390094cb01d3b70151320056da00dc4b0013bd0254ca0314c509d20b001001,
  0xa90210d30111390094cb01d3b70151320056da00dc4b0013bd0254ca0314c509d20c001001,
  0xb60210d601111e00957b01d3ba0151160056dc00dc4b0013bf02557a03157409d20d001001,
  0xb60210d601111e00957b01d3ba0151160056dc00dc4b0013bf02557a03157409d20e001001,
  0xb60210d601111e00957b01d3ba0151160056dc00dc4b0013bf02557a03157409d1d1001001,
  0xb60210d601111e00957b01d3ba0151160056dc00dc4b0013bf02557a03157409d20f001001,
  0xb60210d601111e00957b01d3ba0151160056dc00dc4b0013bf02557a03157409d210001001,
  0xb60210d601111e00957b01d3ba0151160056dc00dc4b0013bf02557a03157409d211001001,
  0xb60210d601111e00957b01d3ba0151160056dc00dc4b0013bf02557a03157409d212001001,
  0xb60210d601111e00957b01d3ba0151160056dc00dc4b0013bf02557a03157409d213001001,
  0xb60210d601111e00957b01d3ba0151160056dc00dc4b0013bf02557a03157409d214001001,
  0xb60210d601111e00957b01d3ba0151160056dc00dc4b0013bf02557a03157409d215001001,
  0xba0210d90111330095b401d3be0151240056de00dc4b0013c10255b30315b009d216001001,
  0xba0210d90111330095b401d3be0151240056de00dc4b0013c10255b30315b009d217001001,
  0xba0210d90111330095b401d3be0151240056de00dc4b0013c10255b30315b009d1d2001001,
  0xba0210d90111330095b401d3be0151240056de00dc4b0013c10255b30315b009d218001001,
  0xba0210d90111330095b401d3be0151240056de00dc4b0013c10255b30315b009d219001001,
  0xba0210d90111330095b401d3be0151240056de00dc4b0013c10255b30315b009d21a001001,
  0xba0210d90111330095b401d3be0151240056de00dc4b0013c10255b30315b009d21b001001,
  0xba0210d90111330095b401d3be0151240056de00dc4b0013c10255b30315b009d21c001001,
  0xba0210d90111330095b401d3be0151240056de00dc4b0013c10255b30315b009d21d001001,
  0xba0210d90111330095b401d3be0151240056de00dc4b0013c10255b30315b009d21e001001,
  0xac0215250190ca01110900950701d3b00151080056d200dc4b0013b50255060315240291d5001001,
  0xb80210c601112500950b01d3bc01511d0056d000dc4b0013b102550a03150209d21f001001,
  0x9f0215100190ca01110900944101d3b00151080056d200dc4b0013b5025440031524029220001001,
  0x1740216410190ca01110900964001d3b00151080056d200dc4b0013b502563f031524029221001001,
  0x9f02145c0190ca01110900944101d3b00151080056d200dc4b0013b5025440031524029220001001,
  0xaf0210ca01110900952701d3b00151080056d200dc4b0013b502552603152409d222001001,
  0xb40215a30190ca0111090095b201d3b00151080056d200dc4b0013b50255b1031524029223001001,
  0xa10214ea0190ca0111090094a901d3b00151080056d200dc4b0013b50254a8031524029224001001,
  0xb90210cd01112c00954301d3c001512b0056d600dc4b0013b802554203153c09d225001001,
  0xa802154a0190ca01110900956e01d3b00151080056d200dc4b0013b502556d031524029226001001,
  0xa802159a0190ca01110900956e01d3b00151080056d200dc4b0013b502556d031524029226001001,
  0xb10210d00111170094af01d3c20151380056d800dc4b0013bb0254ae0314a309d227001001,
  0xa802159f0190ca01110900957601d3b00151080056d200dc4b0013b5025575031524029228001001,
  0xa90210d30111390094cb01d3b70151320056da00dc4b0013bd0254ca0314c509d229001001,
  0xb40215d00190ca0111090095b201d3b00151080056d200dc4b0013b50255b1031524029223001001,
  0xb60210d601111e00957b01d3ba0151160056dc00dc4b0013bf02557a03157409d22a001001]

/-- States 960 to 1023. -/
def rows15 : List Nat := [
  0xb40215a10190ca01110900959901d3b00151080056d200dc4b0013b502559803152402922b001001,
  0xba0210d90111330095b401d3be0151240056de00dc4b0013c10255b30315b009d22c001001,
  0xa10214fd0190ca0111090094fc01d3b00151080056d200dc4b0013b50254fb03152402922d001001,
  0xbc0215e00190ca0111090095df01d3b00151080056d200dc4b0013b50255de03152402922e001001,
  0xa10214ea0190ca0111090094a901d3b00151080056d200dc4b0013b50254a803152402922f001001,
  0xa802159a0190ca01110900956e01d3b00151080056d200dc4b0013b502556d031524029230001001,
  0xb40215d00190ca0111090095b201d3b00151080056d200dc4b0013b50255b1031524029231001001,
  0x6b700dc4b001b2711923200300b,
  0x6b700dc4b001b8611923300300b,
  0x6b7c4eb8700ec4b001b8711923300300b,
  0x35315536610936510da4f02d3640b51bb0093620450e5005a96061c4b0013630b13600fd35f0b9361151b883c523400800b,
  0x1bb0093620450e5005a96061c4b001b892a123500800b,
  0x1bb0093620450e5005a96061c4b001b8a2a123500800b,
  0x1bb0093620450e5005a96061c4b001b8b2a123500800b,
  0x1bb0093620450e5005a96061c4b0013630b135f0b9b8b3c923500800b,
  0x36610936510d3640b51bb0093620450e5005a96061c4b0013630b13600fd35f0b9b8c1f923500800b,
  0x1bb0093620450e5005a96061c4b001b8b2a123500800b,
  0x1bb0093620450e5005a96061c4b00135f0b9b8b3cd23500800b,
  0x36610936510d1bb0093620450e5005a96061c4b0013630b13600fd35f0b9b8b3d123500800b,
  0x3661091bb0093620450e5005a96061c4b0013630b13600fd35f0b9b8b3d523500800b,
  0x1bb0093620450e5005a96061c4b0013630b13600fd35f0b9b8b3d923500800b,
  0x36610936510d3640b51bb0093620450e5005a96061c4b0013630b13600fd35f0b9b8d1f923500800b,
  0x36610936510d3640b51bb0093620450e5005a96061c4b0013630b13600fd35f0b9b8e1f923500800b,
  0x35715538f10938e10dabc02d38d0b51be00938b0450fd005ac9061c4b00138c0b13890fd3880b938a151b8822923600900b,
  0x6d800dc4b001b2713d23700500b,
  0x6d800dc4b001b8613d23800500b,
  0x6d8c4eb8700ec4b001b8713d23800500b,
  0x35815539910939810daca02d3970b51bf0093950450fe005ad6061c4b0013960b13930fd3920b9394151b8822d23900900b,
  0x6da00dc4b001b2711d23a00500b,
  0x6da00dc4b001b8611d23b00500b,
  0x6dac4eb8700ec4b001b8711d23b00500b,
  0x35315536610936510da4f02d3640b51950093620450e5005a4e061c4b0013630b13600fd35f0b9361151b883dd23400800b,
  0xc4b001b8f36100000300b,
  0xb060a9c4b001b0811900000800c,
  0xb060a9c4b001b0811900000800c,
  0xb250a9c4b001b2711900000800c,
  0xc4b001b9036100000300b,
  0x35415537110937010da7f02d36f0b51ba00936d0450fa005a7e061c4b00136e0b136b0fd36a0b936c151b8823123c00a00b,
  0x6d000dc4b001b2713523d00600b,
  0x6d000dc4b001b8613523e00600b,
  0x6d0c4eb8700ec4b001b8713523e00600b,
  0x35515537b10937a10da9702d3790b51bc0093770450fb005aa9061c4b0013780b13750fd3740b9376151b883e123f00b00b,
  0x6d200dc4b001b2712124000100b,
  0x6d200dc4b001b8612124100100b,
  0x6d2c4eb8700ec4b001b8712124100100b,
  0x35615538510938410daaa02d3830b51bd0093810450fc005abb061c4b0013820b137f0fd37e0b9380151b8823524200c00b,
  0x6d600dc4b001b2712524300700b,
  0x6d600dc4b001b8612524400700b,
  0x6d6c4eb8700ec4b001b8712524400700b,
  0x1be00938b0450fd005ac9061c4b001b892a524500900b,
  0x1be00938b0450fd005ac9061c4b001b8a2a524500900b,
  0x1be00938b0450fd005ac9061c4b001b8b2a524500900b,
  0x1be00938b0450fd005ac9061c4b00138c0b13880b9b8b3e524500900b,
  0x38f10938e10d38d0b51be00938b0450fd005ac9061c4b00138c0b13890fd3880b9b8c23924500900b,
  0x1be00938b0450fd005ac9061c4b001b8b2a524500900b,
  0x1be00938b0450fd005ac9061c4b0013880b9b8b3e924500900b,
  0x38f10938e10d1be00938b0450fd005ac9061c4b00138c0b13890fd3880b9b8b3ed24500900b,
  0x38f1091be00938b0450fd005ac9061c4b00138c0b13890fd3880b9b8b3f124500900b,
  0x1be00938b0450fd005ac9061c4b00138c0b13890fd3880b9b8b3f524500900b,
  0x38f10938e10d38d0b51be00938b0450fd005ac9061c4b00138c0b13890fd3880b9b8d23924500900b,
  0x38f10938e10d38d0b51be00938b0450fd005ac9061c4b00138c0b13890fd3880b9b8e23924500900b,
  0x1bf0093950450fe005ad6061c4b001b892a924600900b,
  0x1bf0093950450fe005ad6061c4b001b8a2a924600900b,
  0xc4b001b3420900000900b]

/-- States 1024 to 1087. -/
def rows16 : List Nat := [
  0x1bf0093950450fe005ad6061c4b001b8b2a924600900b,
  0x1bf0093950450fe005ad6061c4b0013960b13920b9b8b3f924600900b,
  0x39910939810d3970b51bf0093950450fe005ad6061c4b0013960b13930fd3920b9b8c23d24600900b,
  0x1bf0093950450fe005ad6061c4b001b8b2a924600900b,
  0x1bf0093950450fe005ad6061c4b0013920b9b8b3fd24600900b,
  0x39910939810d1bf0093950450fe005ad6061c4b0013960b13930fd3920b9b8b40124600900b,
  0x3991091bf0093950450fe005ad6061c4b0013960b13930fd3920b9b8b40524600900b,
  0x1bf0093950450fe005ad6061c4b0013960b13930fd3920b9b8b40924600900b,
  0xc4b001b3520900000900b,
  0x39910939810d3970b51bf0093950450fe005ad6061c4b0013960b13930fd3920b9b8d23d24600900b,
  0x39910939810d3970b51bf0093950450fe005ad6061c4b0013960b13930fd3920b9b8e23d24600900b,
  0xc4b001b3620900000900b,
  0xc4b001b3620900000900b,
  0xc4b001b3620900000900b,
  0xc4b001b3820900000900b,
  0xc4b001b3820900000900b,
  0x6dc00dc4b001b2712924700600b,
  0x6dc00dc4b001b8612924800600b,
  0x6dcc4eb8700ec4b001b8712924800600b,
  0x3591553a31093a210dad702d3a10b51c000939f0450ff005ae3061c4b0013a00b139d0fd39c0b939e151b8840d24900a00b,
  0xc4b001b2711900000800b,
  0xc4b001b0811900000800b,
  0xc4b001b0811900000800b,
  0xc4b001b9111900000800b,
  0xc4b001b9211900000800b,
  0xc4b001b9311900000800b,
  0xc4b001b9411900000800b,
  0xc4b001b9511900000800b,
  0xc4b001b9611900000800b,
  0xc4b001b9711900000800b,
  0xc4b001b9811900000800b,
  0x1f315db060a9c4b001b0813500000a00c,
  0x1f315db060a9c4b001b0813500000a00c,
  0x1f415db250a9c4b001b2713500000a00c,
  0xc4b001b9911900000800b,
  0xc4b001b9a11900000800b,
  0xc4b001b9b11900000800b,
  0xc4b001b9c11900000800b,
  0xc4b001b9d11900000800b,
  0xc4b001b9e11900000800b,
  0xc4b001b9f11900000800b,
  0xc4b001ba011900000800b,
  0xc4b001ba111900000800b,
  0xc4b001ba211900000800b,
  0xc4b001ba311900000800b,
  0xc4b001ba411900000800b,
  0xc4b001b2e11900000800b,
  0x101009b250a9c4b001b2741124a00800c,
  0x1ba00936d0450fa005a7e061c4b001b892ad24b00a00b,
  0x1ba00936d0450fa005a7e061c4b001b8a2ad24b00a00b,
  0xc4b001b3011900000800b,
  0xc4b001b3311900000800b,
  0x1ba00936d0450fa005a7e061c4b001b8b2ad24b00a00b,
  0x1ba00936d0450fa005a7e061c4b00136e0b136a0b9b8b41524b00a00b,
  0x37110937010d36f0b51ba00936d0450fa005a7e061c4b00136e0b136b0fd36a0b9b8c24124b00a00b,
  0x1ba00936d0450fa005a7e061c4b001b8b2ad24b00a00b,
  0x1ba00936d0450fa005a7e061c4b00136a0b9b8b41924b00a00b,
  0x37110937010d1ba00936d0450fa005a7e061c4b00136e0b136b0fd36a0b9b8b41d24b00a00b,
  0x3711091ba00936d0450fa005a7e061c4b00136e0b136b0fd36a0b9b8b42124b00a00b,
  0x1ba00936d0450fa005a7e061c4b00136e0b136b0fd36a0b9b8b42524b00a00b,
  0x37110937010d36f0b51ba00936d0450fa005a7e061c4b00136e0b136b0fd36a0b9b8d24124b00a00b,
  0x37110937010d36f0b51ba00936d0450fa005a7e061c4b00136e0b136b0fd36a0b9b8e24124b00a00b,
  0xb08b0703ab060a9c4b001b0820d00000900c,
  0xb08b0703ab060a9c4b001b0820d00000900c]

/-- States 1088 to 1151. -/
def rows17 : List Nat := [
  0xc4b001b09b080c6b091f900000800b,
  0xc4b001b09b080c6b091f900000800b,
  0xb060a9c4b001b0813d00000900c,
  0xb060a9c4b001b0813d00000900c,
  0xb250a9c4b001b2713d00000900c,
  0x1bc0093770450fb005aa9061c4b001b892b124c00b00b,
  0x1bc0093770450fb005aa9061c4b001b8a2b124c00b00b,
  0xb060a9c4b001b092b5b09b081e600000900c,
  0xb060a9c4b001b092b5b09b081e600000900c,
  0xb250a9c4b001b312b5b31b271e600000900c,
  0xc4b001b3411900000800b,
  0x1bc0093770450fb005aa9061c4b001b8b2b124c00b00b,
  0x1bc0093770450fb005aa9061c4b0013780b13740b9b8b42924c00b00b,
  0x37b10937a10d3790b51bc0093770450fb005aa9061c4b0013780b13750fd3740b9b8c1fd24c00b00b,
  0x1bc0093770450fb005aa9061c4b001b8b2b124c00b00b,
  0x1bc0093770450fb005aa9061c4b0013740b9b8b42d24c00b00b,
  0x37b10937a10d1bc0093770450fb005aa9061c4b0013780b13750fd3740b9b8b43124c00b00b,
  0x37b1091bc0093770450fb005aa9061c4b0013780b13750fd3740b9b8b43524c00b00b,
  0x1bc0093770450fb005aa9061c4b0013780b13750fd3740b9b8b43924c00b00b,
  0xc4b001b3511900000800b,
  0x37b10937a10d3790b51bc0093770450fb005aa9061c4b0013780b13750fd3740b9b8d1fd24c00b00b,
  0x37b10937a10d3790b51bc0093770450fb005aa9061c4b0013780b13750fd3740b9b8e1fd24c00b00b,
  0xc4b001b3611900000800b,
  0xc4b001b3611900000800b,
  0xc4b001b3611900000800b,
  0xc4b001b3811900000800b,
  0xc4b001b3811900000800b,
  0xb27b2603ab250a9c4b001b2720d00000900c,
  0xc4b001b31b270c6b311f900000800b,
  0x103009b250a9c4b001b2743d24d00a00c,
  0x1bd0093810450fc005abb061c4b001b892b924e00c00b,
  0x1bd0093810450fc005abb061c4b001b8a2b924e00c00b,
  0x1bd0093810450fc005abb061c4b001b8b2b924e00c00b,
  0x1bd0093810450fc005abb061c4b0013820b137e0b9b8b44124e00c00b,
  0x38510938410d3830b51bd0093810450fc005abb061c4b0013820b137f0fd37e0b9b8c24524e00c00b,
  0x1bd0093810450fc005abb061c4b001b8b2b924e00c00b,
  0x1bd0093810450fc005abb061c4b00137e0b9b8b44524e00c00b,
  0x38510938410d1bd0093810450fc005abb061c4b0013820b137f0fd37e0b9b8b44924e00c00b,
  0x3851091bd0093810450fc005abb061c4b0013820b137f0fd37e0b9b8b44d24e00c00b,
  0x1bd0093810450fc005abb061c4b0013820b137f0fd37e0b9b8b45124e00c00b,
  0x38510938410d3830b51bd0093810450fc005abb061c4b0013820b137f0fd37e0b9b8d24524e00c00b,
  0x38510938410d3830b51bd0093810450fc005abb061c4b0013820b137f0fd37e0b9b8e24524e00c00b,
  0xc4b001b8f36500000500b,
  0xc4b001b9036500000500b,
  0xc4b001b8f36900000500b,
  0x1c000939f0450ff005ae3061c4b001b892bd24f00a00b,
  0x1c000939f0450ff005ae3061c4b001b8a2bd24f00a00b,
  0xc4b001b9036900000500b,
  0x1c000939f0450ff005ae3061c4b001b8b2bd24f00a00b,
  0x1c000939f0450ff005ae3061c4b0013a00b139c0b9b8b45524f00a00b,
  0x3a31093a210d3a10b51c000939f0450ff005ae3061c4b0013a00b139d0fd39c0b9b8c24924f00a00b,
  0x1c000939f0450ff005ae3061c4b001b8b2bd24f00a00b,
  0x1c000939f0450ff005ae3061c4b00139c0b9b8b45924f00a00b,
  0x3a31093a210d1c000939f0450ff005ae3061c4b0013a00b139d0fd39c0b9b8b45d24f00a00b,
  0x3a31091c000939f0450ff005ae3061c4b0013a00b139d0fd39c0b9b8b46124f00a00b,
  0x1c000939f0450ff005ae3061c4b0013a00b139d0fd39c0b9b8b46524f00a00b,
  0x3a31093a210d3a10b51c000939f0450ff005ae3061c4b0013a00b139d0fd39c0b9b8d24924f00a00b,
  0x3a31093a210d3a10b51c000939f0450ff005ae3061c4b0013a00b139d0fd39c0b9b8e24924f00a00b,
  0x6de00dc4b001b2712d25000700b,
  0xb060a9c4b001b0811d00000900c,
  0xb060a9c4b001b0811d00000900c,
  0xb250a9c4b001b2711d00000900c,
  0x6de00dc4b001b8612d25100700b,
  0x6dec4eb8700ec4b001b8712d25100700b]

end CallContext.Automaton
