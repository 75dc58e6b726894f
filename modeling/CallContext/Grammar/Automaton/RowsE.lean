/-!
# Packed rows of the automaton, states 2304 to 2818

One number a state; `CallContext.Row.ofCode` says how to read it.
-/

namespace CallContext.Automaton

/-- States 2304 to 2367. -/
def rows36 : List Nat := [
  0x27505d173039c4b00135500c001,
  0xc4b001c2b1d900000900e,
  0x78b0697e804dc4b001356009001,
  0x772019c4b00130600b001,
  0x1a313930b039c4b00133f00b001,
  0x8681012d60adc4b00135700f001,
  0xc4b001b4828900000b00d,
  0x79205d0ee039c4b00135800c001,
  0xe90b504b04da59061c4b00100000b00a,
  0x140c4ebe103abe103dc4b00135400a001,
  0xbd105d1a5c4ebd103ac4b00135500c001,
  0xe90b504c04da59061c4b00100000b00a,
  0xbf905d0eec4ebf903ac4b00135800c001,
  0xe90b504d04da59061c4b00100000b00a,
  0x6250b560b04dc4b0012f400b001,
  0x803069610039c4b001359009001,
  0xe90b504e04da59061c4b00100000b00a,
  0x5eb03980803dc4b00135a00a001,
  0x80905d5ec039c4b00135b00c001,
  0x80c069612039c4b00135c009001,
  0x80e069613039c4b00135c009001,
  0xab2051c4b001c2c1ad000009001,
  0xc1f069623c4ec1f03ac4b00135c009001,
  0x5ee03981403dc4b00135a00a001,
  0x878039bf203dc4b00135d00a001,
  0x145039bad05dc4b00135e00c001,
  0x30d039c2205dc4b00135f00c001,
  0x688039c2503dc4b00136000a001,
  0x23a15dc4b001c2011100000a001,
  0xf404dc4b001c2011100000a001,
  0xc4b001b3a28900000b00d,
  0x879039bf303dc4b00136100a001,
  0x87a039bf303dc4b00136100a001,
  0x147039b0d05dc4b00136200c001,
  0xc4b001ba830d00000a001,
  0x30f039b5705dc4b00136300c001,
  0xc4b001b2f30d00000a001,
  0x689039bab03dc4b00136400a001,
  0xc4b001b3b28900000b00d,
  0x34dc4eba703aba703dc4b00134500a001,
  0xc4b001bd81d900000900e,
  0xa81051c4b001c1811100000a001,
  0x933c4ec1903ac1903dc4b00136100a001,
  0xbd905d15dc4ebd903ac4b00136200c001,
  0x8c31013100adc4b00136500f001,
  0x1d2c4ec2803ac2803dc4b00135300a001,
  0x68bc4ec2a03ac2a03dc4b00136400a001,
  0xc4b001b3c28900000b00d,
  0xc4b001bdd1d900000900e,
  0xc4b001bdd1d900000900e,
  0xc4b001bdd1d900000900e,
  0x758019c4b00132d00b001,
  0x8c31013100adc4b00136600f001,
  0xc4b001be21d900000900e,
  0xc4b001be21d900000900e,
  0xc4b001be21d900000900e,
  0xc4b001be425900000a001,
  0xc4b001be71d900000900e,
  0xa8c051c4b001c1d11100000a001,
  0xc4b001c1e25900000a001,
  0x60dc4ec1d03ac1d03dc4b00135a00a001,
  0x14d039bad069c4b001367009001,
  0x14e039b0d069c4b001368009001,
  0x1ab039b1203dc4b00136900a001]

/-- States 2368 to 2431. -/
def rows37 : List Nat := [
  0xba705d34ec4eba703ac4b00136300c001,
  0x23ec4ebbe03abbe03dc4b00136900a001,
  0xbd9069160c4ebd903ac4b001368009001,
  0xc4b001be425d00000c001,
  0xa9f051c4b001c1d11500000c001,
  0xc4b001c1e25d00000c001,
  0xc1d05d60ec4ec1d03ac4b00135b00c001,
  0xc4b001b8f38d000008001,
  0xc4b001b9038d000008001,
  0xb1205d1af039c4b00136a00c001,
  0xbbe05d243c4ebbe03ac4b00136a00c001,
  0xc4b001be4261000009001,
  0xc4b001c1e261000009001,
  0x1d0039b1204dc4b00136b00b001,
  0xbbe04d210c4ebbe03ac4b00136b00b001,
  0x8b17d91e0adc4b00136c008001,
  0x13e03950e03dc4b00133d00a001,
  0x51206915b039c4b00136d009001,
  0x8c17d9260adc4b001343008001,
  0x30e039b0a139c4b00136e00b001,
  0x13e039a1503dc4b00133d00a001,
  0x13e039a1603dc4b00133d00a001,
  0x8c31013100adc4b00136f00f001,
  0x92c04d1d1039c4b00134700b001,
  0x51a06915c039c4b00134b009001,
  0xba713934cc4eba703ac4b00136e00b001,
  0x11203951d03dc4b00137000a001,
  0x11303951e03dc4b00137100a001,
  0x49305d176039c4b00137200c001,
  0x9310697e804dc4b001373009001,
  0x8c31013100adc4b00137400f001,
  0x11403952003dc4b00135400a001,
  0x11503952103dc4b00135400a001,
  0x49505d177039c4b00135500c001,
  0x49605d178039c4b00135500c001,
  0x9350697e804dc4b001375009001,
  0x7b405d0ee039c4b00135800c001,
  0x881069615039c4b001376009001,
  0x5f403988503dc4b00135a00a001,
  0x88605d5f5039c4b00135b00c001,
  0x889069617039c4b00135c009001,
  0x88b069618039c4b00135c009001,
  0x5f703989103dc4b00135a00a001,
  0x8d17d2980adc4b001377008001,
  0x13e03952a03dc4b00133d00a001,
  0x52d06915e039c4b001378009001,
  0x8e17d29a0adc4b001343008001,
  0x13e039a1f03dc4b00133d00a001,
  0x13e039a2003dc4b00133d00a001,
  0x53206915f039c4b00134b009001,
  0x11903953503dc4b0012dc00a001,
  0x11a03953603dc4b00137900a001,
  0x45305d179039c4b00137a00c001,
  0x11b03953803dc4b00135400a001,
  0x11c03953903dc4b00135400a001,
  0x45705d17a039c4b00135500c001,
  0x45805d17b039c4b00135500c001,
  0x82905d0ee039c4b00135800c001,
  0x89906961a039c4b00137b009001,
  0x5fd03989d03dc4b00135a00a001,
  0x89e05d5fe039c4b00135b00c001,
  0x8a106961c039c4b00135c009001,
  0x8a306961d039c4b00135c009001,
  0x6000398a903dc4b00135a00a001]

/-- States 2432 to 2495. -/
def rows38 : List Nat := [
  0x8f17d29f0adc4b00137c008001,
  0x13e03954603dc4b00133d00a001,
  0x54c069161039c4b00137d009001,
  0x9017d2a00adc4b001343008001,
  0x552069162039c4b00134b009001,
  0x12003955503dc4b00137e00a001,
  0x12103955603dc4b00137f00a001,
  0x55705d17c039c4b00138000c001,
  0x12203955903dc4b00135400a001,
  0x12303955a03dc4b00135400a001,
  0x55c05d17d039c4b00135500c001,
  0x55d05d17e039c4b00135500c001,
  0x7d205d0ee039c4b00135800c001,
  0x8b006961f039c4b001381009001,
  0x6060398b403dc4b00135a00a001,
  0x8b505d607039c4b00135b00c001,
  0x8b8069621039c4b00135c009001,
  0x8ba069622039c4b00135c009001,
  0x6090398c003dc4b00135a00a001,
  0x9117d2a40adc4b001382008001,
  0x13e0394b303dc4b00133d00a001,
  0x4b6069163039c4b001383009001,
  0x9217d2a50adc4b001343008001,
  0x4bb069164039c4b00134b009001,
  0x1270394be03dc4b00138400a001,
  0x1280394bf03dc4b00138500a001,
  0x56705d17f039c4b00138600c001,
  0x1290394c103dc4b00135400a001,
  0x12a0394c203dc4b00135400a001,
  0x56905d180039c4b00135500c001,
  0x56a05d181039c4b00135500c001,
  0x9317da220adc4b001387008001,
  0x13e0394ce03dc4b00133d00a001,
  0x4d1069165039c4b001388009001,
  0x9417da230adc4b001343008001,
  0x4d6069166039c4b00134b009001,
  0x12e0394d903dc4b00138900a001,
  0x12f0394da03dc4b00138a00a001,
  0x40805d182039c4b00138b00c001,
  0x1300394dc03dc4b00135400a001,
  0x1310394dd03dc4b00135400a001,
  0x40c05d183039c4b00135500c001,
  0x40d05d184039c4b00135500c001,
  0x9517d2a90adc4b00138c008001,
  0x13e03957e03dc4b00133d00a001,
  0x581069167039c4b00138d009001,
  0x9617d2aa0adc4b001343008001,
  0x586069168039c4b00134b009001,
  0x13403958903dc4b00138e00a001,
  0x13503958a03dc4b00138f00a001,
  0x4e205d185039c4b00139000c001,
  0x13603958c03dc4b00135400a001,
  0x13703958d03dc4b00135400a001,
  0x4e405d186039c4b00135500c001,
  0x4e505d187039c4b00135500c001,
  0x9717d2ae0adc4b001391008001,
  0x13e0395b703dc4b00133d00a001,
  0x5ba069169039c4b001392009001,
  0x9817d2af0adc4b001343008001,
  0x5bf06916a039c4b00134b009001,
  0x13a0395c203dc4b00139300a001,
  0x13b0395c303dc4b00139400a001,
  0x59105d188039c4b00139500c001,
  0x13c0395c503dc4b00135400a001]

/-- States 2496 to 2559. -/
def rows39 : List Nat := [
  0x13d0395c603dc4b00135400a001,
  0x59305d189039c4b00135500c001,
  0x59405d18a039c4b00135500c001,
  0x5ca05d18b039c4b00139600c001,
  0x5cc05d18c039c4b00135500c001,
  0x5cd05d18d039c4b00135500c001,
  0x5d805d18e039c4b00139700c001,
  0x5da05d18f039c4b00135500c001,
  0x5db05d190039c4b00135500c001,
  0x7904d0ea005c4b00139800b001,
  0x1b013930b039c4b00133f00b001,
  0x1b113930b039c4b00133f00b001,
  0xe90b504f04da59061c4b00100000b00a,
  0xe90b505004da59061c4b00100000b00a,
  0xe90b505104da59061c4b00100000b00a,
  0xe90b505204da59061c4b00100000b00a,
  0x1b513930b039c4b00133f00b001,
  0x1b613930b039c4b00133f00b001,
  0x1d513930b039c4b00133f00b001,
  0x1d613930b039c4b00133f00b001,
  0xc4b001c2d105000008001,
  0xc4b001c2e105000008001,
  0xc4b001c2f105000008001,
  0xc4b001bb6105000008001,
  0xc4b001c30105000008001,
  0xc4b001bc3105000008001,
  0xc4b001bc4105000008001,
  0xc4b001c3114100000b001,
  0xc4b001c2014100000b001,
  0xc4b001c2014100000b001,
  0xc4b001bba105000008001,
  0x299039c4b00139900b001,
  0xec1f505d04dc4b00100000b00d,
  0x684005c4b00139a00b001,
  0xc4b001c26105000008001,
  0xc4b001bd7105000008001,
  0xc4b001c32105000008001,
  0xc4b001c33105000008001,
  0xc4b001c34105000008001,
  0xc4b001c35105000008001,
  0xc4b001c35105000008001,
  0xc4b001c3611100000a001,
  0xc4b001c3711100000a001,
  0xc4b001bd911100000a001,
  0xed1f506004dc4b00100000b00d,
  0x684005c4b00139b00b001,
  0xc4b001c2814100000b001,
  0xc4b001c3839100000b00d,
  0xef1f506404dc4b00100000b00d,
  0xc4b001c291ad000009001,
  0xc4b001c2a14100000b001,
  0xc4b001c3917500000e001,
  0xf01f506804dc4b00100000b00d,
  0xc4b001c3a39100000b00d,
  0xc4b001c3b105000008001,
  0xc4b001be111100000a001,
  0xc4b001c3c11100000a001,
  0xc4b001bd111500000c001,
  0xc4b001c3d105000008001,
  0xc4b001c3e105000008001,
  0xc4b0017f82e100000b001,
  0xc4b0017510bd00000b001,
  0xc4b0018050bd00000b001,
  0xc4b00180a0bd00000b001]

/-- States 2560 to 2623. -/
def rows40 : List Nat := [
  0xc4b001c3f17500000e001,
  0xc4b001c1f1ad000009001,
  0xc4b001c4017500000e001,
  0xc4b001c4117500000e001,
  0xc4b001c4017500000e001,
  0xc4b001c4217500000e001,
  0xc4b001c4317500000e001,
  0xc4b001c4217500000e001,
  0xc4b001c4317500000e001,
  0xc4b001c4417500000e001,
  0xc4b001c4417500000e001,
  0xc4b001c4517500000e001,
  0xc4b001c4617500000e001,
  0xc4b001b2611100000a001,
  0xc4b001c3111100000a001,
  0xc4b001c2011100000a001,
  0xc4b001bba11100000a001,
  0xc4b001ba911100000a001,
  0xc4b001ba711100000a001,
  0xc4b001c1811100000a001,
  0xc4b001c2711100000a001,
  0xc4b001c3611500000c001,
  0xc4b001c3711500000c001,
  0xc4b001bd911500000c001,
  0xc4b001c2811100000a001,
  0xc4b001c2a11100000a001,
  0xc4b001b2611500000c001,
  0xc4b001bba11500000c001,
  0xc4b001ba811500000c001,
  0xc4b001ba911500000c001,
  0xc4b001ba711500000c001,
  0xc4b001c361ad000009001,
  0xc4b001c371ad000009001,
  0xc4b001bd91ad000009001,
  0xc4b001b3a17500000e001,
  0xc4b001b3b17500000e001,
  0xc4b001b4717500000e001,
  0xc4b001b3c17500000e001,
  0xc4b001b4817500000e001,
  0xc4b00187c2e100000b001,
  0xc4b0017b80bd00000b001,
  0xc4b0018830bd00000b001,
  0xc4b0018870bd00000b001,
  0xc4b0018942e100000b001,
  0xc4b0017c40bd00000b001,
  0xc4b00189b0bd00000b001,
  0xc4b00189f0bd00000b001,
  0xc4b0018392e100000b001,
  0xc4b0017d30bd00000b001,
  0xc4b0018b20bd00000b001,
  0xc4b0018b60bd00000b001,
  0x1041f507804dc4b00100000b00d,
  0x1051f507b04dc4b00100000b00d,
  0x1061f507f04dc4b00100000b00d,
  0x1071f508304dc4b00100000b00d,
  0x684005c4b00139c00b001,
  0x684005c4b00139d00b001,
  0x5704dc4b00100000b001,
  0x853019c4b00100000b001,
  0x854019c4b00100000b001,
  0x855019c4b00100000b001,
  0x7de019c4b00100000b001,
  0xc4c28dc4b00100000b001,
  0x1e30a9c4b00100000b002]

/-- States 2624 to 2687. -/
def rows41 : List Nat := [
  0x7e206dc4b00100000b001,
  0x74306dc4b00100000b001,
  0x67403dc4b00100000a001,
  0x41a03dc4b00100000a001,
  0x85e019c4b00100000b001,
  0x1c9139c4b00100000b001,
  0x5a04dc4b00100000b001,
  0x7e4019c4b00100000b001,
  0x67505dc4b00100000c001,
  0x41b05dc4b00100000c001,
  0x41c069c4b001000009001,
  0x41d069c4b001000009001,
  0x1ed04dc4b00100000b001,
  0xc4704dc4b00100000b001,
  0x271019c4b00100000b001,
  0x367139c4b00100000b001,
  0xa440c1c4b00100000b001,
  0x7e9019c4b00100000b001,
  0x8f1019c4b00100000b001,
  0xc4806dc4b00100000b001,
  0x2d50a1c4b00100000b001,
  0x42203dc4b00100000a001,
  0x1cb139c4b00100000b001,
  0x5c04dc4b00100000b001,
  0x8fa019c4b00100000b001,
  0x7ec019c4b00100000b001,
  0x5f04dc4b00100000b001,
  0x42305dc4b00100000c001,
  0x425069c4b001000009001,
  0x426069c4b001000009001,
  0x42703dc4b00100000a001,
  0x784069c4b001000009001,
  0x1a0139c4b00100000b001,
  0x6104dc4b00100000b001,
  0x6304dc4b00100000b001,
  0xb2004dc4b00100000b001,
  0x9f503dc4b00100000a001,
  0x6504dc4b00100000b001,
  0x78c069c4b001000009001,
  0x78d069c4b001000009001,
  0x9fa03dc4b00100000a001,
  0x9fb03dc4b00100000a001,
  0x1a3139c4b00100000b001,
  0x6604dc4b00100000b001,
  0x6704dc4b00100000b001,
  0xc4904dc4b00100000b001,
  0x795069c4b001000009001,
  0xc4a04dc4b00100000b001,
  0x1a704dc4b00100000b001,
  0x873019c4b00100000b001,
  0x6e04dc4b00100000b001,
  0x7004dc4b00100000b001,
  0x7204dc4b00100000b001,
  0x2000a9c4b00100000b002,
  0x92203dc4b00100000a001,
  0x50f03dc4b00100000a001,
  0x7a5019c4b00100000b001,
  0xa1105dc4b00100000c001,
  0x51105dc4b00100000c001,
  0x512069c4b001000009001,
  0x513069c4b001000009001,
  0x20504dc4b00100000b001,
  0x492019c4b00100000b001,
  0x372139c4b00100000b001]

/-- States 2688 to 2751. -/
def rows42 : List Nat := [
  0x71d019c4b00100000b001,
  0xa14019c4b00100000b001,
  0x51803dc4b00100000a001,
  0x7ab019c4b00100000b001,
  0x51905dc4b00100000c001,
  0x51b069c4b001000009001,
  0x51c069c4b001000009001,
  0x51d03dc4b00100000a001,
  0x932069c4b001000009001,
  0x936069c4b001000009001,
  0x937069c4b001000009001,
  0x939069c4b001000009001,
  0x93b019c4b00100000b001,
  0x20c0a9c4b00100000b002,
  0xa1c03dc4b00100000a001,
  0x52b03dc4b00100000a001,
  0x821019c4b00100000b001,
  0xa1d05dc4b00100000c001,
  0x52c05dc4b00100000c001,
  0x52d069c4b001000009001,
  0x52e069c4b001000009001,
  0x21104dc4b00100000b001,
  0x44a019c4b00100000b001,
  0x37c139c4b00100000b001,
  0x7be019c4b00100000b001,
  0x53003dc4b00100000a001,
  0x823019c4b00100000b001,
  0x53105dc4b00100000c001,
  0x533069c4b001000009001,
  0x534069c4b001000009001,
  0x53503dc4b00100000a001,
  0x945019c4b00100000b001,
  0x2140a9c4b00100000b002,
  0x83303dc4b00100000a001,
  0x54703dc4b00100000a001,
  0x7c8019c4b00100000b001,
  0x83405dc4b00100000c001,
  0x54b05dc4b00100000c001,
  0x54c069c4b001000009001,
  0x54d069c4b001000009001,
  0x21804dc4b00100000b001,
  0x54e019c4b00100000b001,
  0x386139c4b00100000b001,
  0x7cc019c4b00100000b001,
  0x55003dc4b00100000a001,
  0x7cd019c4b00100000b001,
  0x55105dc4b00100000c001,
  0x553069c4b001000009001,
  0x554069c4b001000009001,
  0x55503dc4b00100000a001,
  0x94c019c4b00100000b001,
  0x21b0a9c4b00100000b002,
  0x65b03dc4b00100000a001,
  0x4b403dc4b00100000a001,
  0x65c05dc4b00100000c001,
  0x4b505dc4b00100000c001,
  0x4b6069c4b001000009001,
  0x4b7069c4b001000009001,
  0x21f04dc4b00100000b001,
  0x566019c4b00100000b001,
  0x390139c4b00100000b001,
  0x7d5019c4b00100000b001,
  0x4b903dc4b00100000a001,
  0x4ba05dc4b00100000c001]

/-- States 2752 to 2815. -/
def rows43 : List Nat := [
  0x4bc069c4b001000009001,
  0x4bd069c4b001000009001,
  0x4be03dc4b00100000a001,
  0x2220a9c4b00100000b002,
  0x4cf03dc4b00100000a001,
  0x4d005dc4b00100000c001,
  0x4d1069c4b001000009001,
  0x4d2069c4b001000009001,
  0x22604dc4b00100000b001,
  0x3ff019c4b00100000b001,
  0x39a139c4b00100000b001,
  0x4d403dc4b00100000a001,
  0x4d505dc4b00100000c001,
  0x4d7069c4b001000009001,
  0x4d8069c4b001000009001,
  0x4d903dc4b00100000a001,
  0x2290a9c4b00100000b002,
  0x57f03dc4b00100000a001,
  0x58005dc4b00100000c001,
  0x581069c4b001000009001,
  0x582069c4b001000009001,
  0x22d04dc4b00100000b001,
  0x4e1019c4b00100000b001,
  0x3a4139c4b00100000b001,
  0x58403dc4b00100000a001,
  0x58505dc4b00100000c001,
  0x587069c4b001000009001,
  0x588069c4b001000009001,
  0x58903dc4b00100000a001,
  0x2300a9c4b00100000b002,
  0x5b803dc4b00100000a001,
  0x5b905dc4b00100000c001,
  0x5ba069c4b001000009001,
  0x5bb069c4b001000009001,
  0x23404dc4b00100000b001,
  0x590019c4b00100000b001,
  0x3ae139c4b00100000b001,
  0x5bd03dc4b00100000a001,
  0x5be05dc4b00100000c001,
  0x5c0069c4b001000009001,
  0x5c1069c4b001000009001,
  0x5c203dc4b00100000a001,
  0x5c9019c4b00100000b001,
  0x5d7019c4b00100000b001,
  0x7504dc4b00100000b001,
  0x7704dc4b00100000b001,
  0x7a04dc4b00100000b001,
  0x1b0139c4b00100000b001,
  0x7c04dc4b00100000b001,
  0x7e04dc4b00100000b001,
  0x8004dc4b00100000b001,
  0x1b1139c4b00100000b001,
  0x8104dc4b00100000b001,
  0x8204dc4b00100000b001,
  0x1b304dc4b00100000b001,
  0x1b5139c4b00100000b001,
  0x1b6139c4b00100000b001,
  0x1b804dc4b00100000b001,
  0x8804dc4b00100000b001,
  0x84b019c4b00100000b001,
  0x8ce019c4b00100000b001,
  0x8cf019c4b00100000b001,
  0x1d5139c4b00100000b001,
  0xafd0c1c4b00100000b001]

/-- States 2816 to 2818. -/
def rows44 : List Nat := [
  0x3460a1c4b00100000b001,
  0x1d6139c4b00100000b001,
  0x3480a1c4b00100000b001]

end CallContext.Automaton
