/-!
# Packed transitions on nonterminals, tables 512 to 925

One number a table; `CallContext.Gotos.ofCode` says how to read it.
-/

namespace CallContext.Automaton

/-- Tables 512 to 575. -/
def gotos08 : List Nat := [
  0x251bacf61cc946e54a370251b7928dba946dc4a36da51b6528db0946d74a36b251b3528d96946ca4a360a51b00fe57a936b8,
  0x251bacf61cc946e54a370251b7928dba946dc4a36da51b6528db0946d74a36b251b3528d96946ca4a360a51b00fe97a936b8,
  0x251bacf61cc946e54a370251b7928dba946dc4a36da51b6528db0946d74a36b251b3528d96946ca4a360a51b00fed7a936b8,
  0x251bacf61cc946e54a370251b7928dba946dc4a36da51b6528db0946d74a36b251b3528d96946ca4a360a51b00ff17a936b8,
  0x262bacf71cc98ae54c570262b79315ba98adc4c56da62b65315b098ad74c56b262b353159698aca4c560a62b010017a9d6b8,
  0x262bacf71cc98ae54c570262b79315ba98adc4c56da62b65315b098ad74c56b262b353159698aca4c560a62b010057a9d6b8,
  0x262bacf71cc98ae54c570262b79315ba98adc4c56da62b65315b098ad74c56b262b353159698aca4c560a62b0100d7a9d6b8,
  0x262bacf71cc98ae54c570262b79315ba98adc4c56da62b65315b098ad74c56b262b353159698aca4c560a62b010117a9d6b8,
  0x262bacf71cc98ae54c570262b79315ba98adc4c56da62b65315b098ad74c56b262b353159698aca4c560a62b010157a9d6b8,
  0x262bacf71cc98ae54c570262b79315ba98adc4c56da62b65315b098ad74c56b262b353159698aca4c560a62b010197a9d6b8,
  0x262bacf71cc98ae54c570262b79315ba98adc4c56da62b65315b098ad74c56b262b353159698aca4c560a62b0101d7a9d6b8,
  0x262bacf71cc98ae54c570262b79315ba98adc4c56da62b65315b098ad74c56b262b353159698aca4c560a62b010257a9d6b8,
  0x262bacf71cc98ae54c570262b79315ba98adc4c56da62b65315b098ad74c56b262b353159698aca4c560a62b010297a9d6b8,
  0x2ba3ad041ccae8e5574702ba3795d1baae8dc5746daba3655d1b0ae8d75746b2ba3355d196ae8ca57460aba3011c17aa80b8,
  0x2ba3ad041ccae8e5574702ba3795d1baae8dc5746daba3655d1b0ae8d75746b2ba3355d196ae8ca57460aba3011c57aa80b8,
  0x2ba3ad041ccae8e5574702ba3795d1baae8dc5746daba3655d1b0ae8d75746b2ba3355d196ae8ca57460aba3011cd7aa80b8,
  0x2ba3ad041ccae8e5574702ba3795d1baae8dc5746daba3655d1b0ae8d75746b2ba3355d196ae8ca57460aba3011d17aa80b8,
  0x2ba3ad041ccae8e5574702ba3795d1baae8dc5746daba3655d1b0ae8d75746b2ba3355d196ae8ca57460aba3011d57aa80b8,
  0x2ba3ad041ccae8e5574702ba3795d1baae8dc5746daba3655d1b0ae8d75746b2ba3355d196ae8ca57460aba3011d97aa80b8,
  0x2ba3ad041ccae8e5574702ba3795d1baae8dc5746daba3655d1b0ae8d75746b2ba3355d196ae8ca57460aba3011dd7aa80b8,
  0x2ba3ad041ccae8e5574702ba3795d1baae8dc5746daba3655d1b0ae8d75746b2ba3355d196ae8ca57460aba3011e17aa80b8,
  0x2ba3ad041ccae8e5574702ba3795d1baae8dc5746daba3655d1b0ae8d75746b2ba3355d196ae8ca57460aba3011e57aa80b8,
  0x2d83ad1e9ccb60e55b0702d83796c1bab60dc5b06dad83656c1b0b60d75b06b2d83356c196b60ca5b060ad83013c57ab5ab8,
  0x2d83ad1e9ccb60e55b0702d83796c1bab60dc5b06dad83656c1b0b60d75b06b2d83356c196b60ca5b060ad83013c97ab5ab8,
  0x2d83ad1e9ccb60e55b0702d83796c1bab60dc5b06dad83656c1b0b60d75b06b2d83356c196b60ca5b060ad83013d17ab5ab8,
  0x2d83ad1e9ccb60e55b0702d83796c1bab60dc5b06dad83656c1b0b60d75b06b2d83356c196b60ca5b060ad83013d57ab5ab8,
  0x2d83ad1e9ccb60e55b0702d83796c1bab60dc5b06dad83656c1b0b60d75b06b2d83356c196b60ca5b060ad83013d97ab5ab8,
  0x2d83ad1e9ccb60e55b0702d83796c1bab60dc5b06dad83656c1b0b60d75b06b2d83356c196b60ca5b060ad83013dd7ab5ab8,
  0x2d83ad1e9ccb60e55b0702d83796c1bab60dc5b06dad83656c1b0b60d75b06b2d83356c196b60ca5b060ad83013e17ab5ab8,
  0x2d83ad1e9ccb60e55b0702d83796c1bab60dc5b06dad83656c1b0b60d75b06b2d83356c196b60ca5b060ad83013e57ab5ab8,
  0x2d83ad1e9ccb60e55b0702d83796c1bab60dc5b06dad83656c1b0b60d75b06b2d83356c196b60ca5b060ad83013e97ab5ab8,
  0x2813acf99cca04e550270281379409baa04dc5026da81365409b0a04d75026b28133540996a04ca50260a813010c17aac6b8,
  0x2923acfa9cca48e552470292379491baa48dc5246da92365491b0a48d75246b292335171968b8ca52460a923019a17a9feb8,
  0x2923acfa9cca48e552470292379491baa48dc5246da92365491b0a48d75246b29233590596c82ca52460a923019a57a9feb8,
  0x2923acfa9cca48e552470292379491baa48dc5246da92365491b0a48d75246b29233549196a48ca52460a923011157a9feb8,
  0x2923acfa9cca48e552470292379491baa48dc5246da92365491b0a48d75246b29233574196ba0ca52460a923019b57a9feb8,
  0x2923acfa9cca48e552470292379491baa48dc5246da92365491b0a48d75246b2923353a9969d4ca52460a923019ad7a9feb8,
  0x29e3acfb9cca78e553c7029e3794f1baa78dc53c6da9e3654f1b0a78d753c6b29e3354f196a78ca53c60a9e3011797aadeb8,
  0x2923acfa9cca48e552470292379491baa48dc5246da92365491b0a48d75246b29233566996b34ca52460a923019b17a9feb8,
  0x251bacf61cc946e54a370251b7928dba946dc4a36da51b6528db0946d74a36b251b3528d96946ca4a360a51b00fc57a936b8,
  0x2923acfa9cca48e552470292379491baa48dc5246da92365491b0a48d75246b29233567d96b3eca52460a923019a57a9feb8,
  0x262bacf71cc98ae54c570262b79315ba98adc4c56da62b65315b098ad74c56b262b353159698aca4c560a62b00ff57a9d6b8,
  0x2ba3ad041ccae8e5574702ba3795d1baae8dc5746daba3655d1b0ae8d75746b2ba3355d196ae8ca57460aba3011b57aa80b8,
  0x2923acfa9cca48e552470292379491baa48dc5246da92365491b0a48d75246b29233568596b42ca52460a923019b97a9feb8,
  0x2d83ad1e9ccb60e55b0702d83796c1bab60dc5b06dad83656c1b0b60d75b06b2d83356c196b60ca5b060ad83013b17ab5ab8,
  0x2923acfa9cca48e552470292379491baa48dc5246da92365491b0a48d75246b2923353f5969faca52460a923019bd7a9feb8,
  0x2923acfa9cca48e552470292379491baa48dc5246da92365491b0a48d75246b29233578196bc0ca52460a923019a97a9feb8,
  0x2923acfa9cca48e552470292379491baa48dc5246da92365491b0a48d75246b2923353a9969d4ca52460a923019bd7a9feb8,
  0x2923acfa9cca48e552470292379491baa48dc5246da92365491b0a48d75246b29233566996b34ca52460a923019a57a9feb8,
  0x2923acfa9cca48e552470292379491baa48dc5246da92365491b0a48d75246b29233574196ba0ca52460a923019b97a9feb8,
  0xf2214790e6,
  0xf2614792e6,
  0x316411061bc8309e,
  0x1061bc8309e,
  0x31c4112c5bc9629e,
  0xf66147b2e6,
  0xf6a147b4e6,
  0x31d411335bc99a9e,
  0xf76147bae6,
  0xf7a147bce6,
  0x31f411435bca1a9e,
  0xf9e147cee6,
  0xfa2147d0e6,
  0x3174114a5bca529e]

/-- Tables 576 to 639. -/
def gotos09 : List Nat := [
  0xfae147d6e6,
  0xfb2147d8e6,
  0x322411515bca8a9e,
  0xfbe147dee6,
  0xfc2147e0e6,
  0x12c5bc9629e,
  0x1335bc99a9e,
  0x104614822e6,
  0x104a14824e6,
  0x3194115f5bcafa9e,
  0xf4c9c,
  0x1435bca1a9e,
  0x14a5bca529e,
  0xf929c,
  0x1515bca8a9e,
  0x15f5bcafa9e,
  0x11fa148fce6,
  0x11fe148fee6,
  0x31e4116d9bcb6c9e,
  0x10449c,
  0x16d9bcb6c9e,
  0x389b99e45cb4e6e379157bc8ab9e455b0daac791553c8aa5e4550f22a786d533c8a961c948f1ea3,
  0x389b99e45cb4e8e379157bc8ab9e455b0daac791553c8aa5e4550f22a786d533c8a961c948f1ea3,
  0x1d5dcd030e581857c0c2ba0615b270ac8185540c2a606151030a79385340c2961bd4902ea3,
  0x1d81cd050e582857c142ba0a15b286ac828554142a60a151050a7943534142961c14904ea3,
  0x1d5dcd030e581857c0c2ba0615b270ac8185540c2a606151030a79385340c2961c54902ea3,
  0x1d5dcd030e581857c0c2ba0615b270ac8185540c2a606151030a79385340c2964e94902ea3,
  0x1d81cd050e582857c142ba0a15b286ac828554142a60a151050a7943534142965114904ea3,
  0x1d5dcd030e581857c0c2ba0615b270ac8185540c2a606151030a79385340c2963154902ea3,
  0x1d81cd050e582857c142ba0a15b286ac828554142a60a151050a7943534142963194904ea3,
  0x1d5dcd030e581857c0c2ba0615b270ac8185540c2a606151030a79385340c29631d4902ea3,
  0x1d5dcd030e581857c0c2ba0615b270ac8185540c2a606151030a79385340c2963214902ea3,
  0x1d81cd050e582857c142ba0a15b286ac828554142a60a151050a7943534142963254904ea3,
  0x1d5dcd030e581857c0c2ba0615b270ac8185540c2a606151030a79385340c2963294902ea3,
  0x1d5dcd030e581857c0c2ba0615b270ac8185540c2a606151030a79385340c29632d4902ea3,
  0x1d81cd050e582857c142ba0a15b286ac828554142a60a151050a7943534142963314904ea3,
  0x1d5dcd030e581857c0c2ba0615b270ac8185540c2a606151030a79385340c2963354902ea3,
  0x1c4dccf22e579157bc8ab9e455b0daac791553c8aa5e4550f22a786d533c8a95e4148f1ea3,
  0x1d91cd070e583857c1c2ba0e15b296ac8385541c2a60e151070a794b5341c2964554906ea3,
  0x1c4dccf22e579157bc8ab9e455b0daac791553c8aa5e4550f22a786d533c8a961c948f1ea3,
  0x713734873964395f21cae7fb56c87aae4395521ca990e5448729e4394af1ea3,
  0x713734873964395f21cae87556d00aae4395521ca990e5448729e4394af1ea3,
  0x713734873964395f21cae84056cb2aae4395521ca990e5448729e4394af1ea3,
  0x713734873964395f21cae84256cbd2ae4395521ca990e5448729e4394af1ea3,
  0x713734873964395f21cae84456cc6aae4395521ca990e5448729e4394af1ea3,
  0x389b99e75caf3aaf79d573ceab5e7554f3aa979d543cea9de754af1ea3,
  0x389b99e79caf3caf79e573cf2b5e7954f3ca979e543cf29de794af1ea3,
  0x3abb9a071cb038af81c5740e2b607155038a981c5440e29e0714b02ea3,
  0x3abb9a075cb03aaf81d5740eab60755503aa981d5440ea9e0754b02ea3,
  0x3b039a0b5cb05aaf82d57416ab60b55505aa982d54416a9e0b54b04ea3,
  0x3b039a0b9cb05caf82e574172b60b95505ca982e5441729e0b94b04ea3,
  0x3b239a0edcb076af83b5741dab60ed55076a983b5441da9e0ed4b06ea3,
  0x3b239a0f1cb078af83c5741e2b60f155078a983c5441e29e0f14b06ea3,
  0xc5b04,
  0xc5f04,
  0xc6704,
  0xc7304,
  0xc7704,
  0xc7b04,
  0xc8504,
  0xc8d03,
  0xc8b04,
  0x4ee3b6771d93b8ce9dd5cceeae27716f3b8b68dc5a46daca9356149894,
  0xce703]

/-- Tables 640 to 703. -/
def gotos10 : List Nat := [
  0xcf103,
  0x4ee3b6771d93b8ce9dd5cceeae27716f3b8b68dc5a46daca935614e094,
  0x4ee3b6771d93b8ce9dd5cceeae27716f3b8b68dc5a46daca935614fa94,
  0xc8703,
  0x4ee3b6771d93b8ce9dd5cceeae27716f3b8b68dc5a46daca9356152a94,
  0x4ee3b6771d93b8ce9dd5cceeae27716f3b8b68dc5a46daca9356155094,
  0x4ee3b6771d93b8ce9dd5cceeae27716f3b8b68dc5a46daca9356157494,
  0x4ee3b6771d93b8ce9dd5cceeae27716f3b8b68dc5a46daca9356159094,
  0x4ee3b6771d93b8ce9dd5cceeae27716f3b8b68dc5a46daca935615aa94,
  0x4ee3b6771d93b8ce9dd5cceeae27716f3b8b68dc5a46daca935615c494,
  0x4ee3b6771d93b8ce9dd5cceeae27716f3b8b68dc5a46daca935615ec94,
  0x4ee3b6771d93b8ce9dd5cceeae27716f3b8b68dc5a46daca935615f294,
  0x283ddb41eeca0f6748eae64757141eb7a0f5b48e2d246d654c8b0,
  0x13b8ed9dc764ee33a775733bab89dc5bcee2da371693e4b2,
  0x141eeda0f76507b3a4757323ab8a0f5bd07ada47169432b2,
  0x49f421d6dc54b8df,
  0x49f421d6dc550adf,
  0x49f421d6dc5538df,
  0x49f421d6dc555edf,
  0x49f421d6dc5580df,
  0x49f421d6dc559adf,
  0x49f421d6dc55b4df,
  0x49f421d6dc55cedf,
  0x470421d11c54aadf,
  0x490c21d4dc54b6df,
  0x470421d11c5532df,
  0x47ebf5d11c54aadf,
  0x10aef3,
  0x470421d11c5504df,
  0x4afbf5d11c5504df,
  0x4babf5d11c5532df,
  0x470421d11c5558df,
  0x4c43f5d11c5558df,
  0x470421d11c557cdf,
  0x4cdbf5d11c557cdf,
  0x470421d11c5596df,
  0x4d3bf5d11c5596df,
  0x470421d11c55b0df,
  0x4d9bf5d11c55b0df,
  0x470421d11c55cadf,
  0x4dfbf5d11c55cadf,
  0x490c21d4dc5508df,
  0x490c21d4dc5536df,
  0x490c21d4dc555cdf,
  0x490c21d4dc557edf,
  0x490c21d4dc5598df,
  0x490c21d4dc55b2df,
  0x490c21d4dc55ccdf,
  0x73f8635c42dae1d0d70e7,
  0x73f8635d42dae9d0d74e7,
  0xf48f3,
  0x73f86368c2db45d0da2e7,
  0x73f86369c2db4dd0da6e7,
  0x73f8636ac2db55d0daae7,
  0x73f8636bc2db5dd0daee7,
  0x73f8636cc2db65d0db2e7,
  0x73f8636dc2db6dd0db6e7,
  0x73f8636ec2db75d0dbae7,
  0x73f8636fc2db7dd0dbee7,
  0xfc6f3,
  0xdc8ff,
  0xdccff,
  0x7747f3ba280b45365a292,
  0x10b8f2]

/-- Tables 704 to 767. -/
def gotos11 : List Nat := [
  0x10baf3,
  0x3e2f91f07c16c2387c51a3e08c,
  0x11ff05,
  0x3f2f91f87c1712387e51a3f08c,
  0x10d8f3,
  0xeb4ff,
  0xec4ff,
  0xeccff,
  0x7747f3ba280c313661892,
  0x40ef92067c18923881d1a40c8c,
  0x12c305,
  0x414f92097c18e2388291a4128c,
  0x12ef05,
  0x131505,
  0x133b05,
  0x135305,
  0x136b05,
  0x138305,
  0x138905,
  0x138f05,
  0x85178520a8e904e31a270,
  0xe850c,
  0x11c6f5,
  0x474419d6dc54badf,
  0x7da51cf41da140eb3ce74,
  0x3a341dd19c6e8ce2,
  0x3a641dd31c6e98e2,
  0x129af3,
  0x12eafd,
  0x127ef3,
  0x3aa41dd51c6ea8e2,
  0x3ab41dd59c6eace2,
  0x1292f3,
  0xeb8ff,
  0x3aec1dd75c6ebae2,
  0x3afc1dd7dc6ebee2,
  0xec6ff,
  0xeceff,
  0x4ac419d6dc550cdf,
  0x4b8c19d6dc553adf,
  0x4c2419d6dc5560df,
  0x4cbc19d6dc5582df,
  0x4d1c19d6dc559cdf,
  0x4d7c19d6dc55b6df,
  0x4ddc19d6dc55d0df,
  0x12aef5,
  0xeeaff,
  0x1dd1fcee8a0,
  0xef8ff,
  0x120efc,
  0xf2f09,
  0x1ff1ef4e4e3,
  0xf3100,
  0xf3709,
  0xf3909,
  0xf3f00,
  0xf9503,
  0xf52f3,
  0xf6f09,
  0xf7309,
  0xf7509,
  0xf8709,
  0xf8b09,
  0xf8d09]

/-- Tables 768 to 831. -/
def gotos12 : List Nat := [
  0x12c8fc,
  0x12f2fc,
  0x1318fc,
  0x10b2f1,
  0x29693d1ce9c,
  0x14beea,
  0x218d471e075,
  0x3ed28e140eb3ca74,
  0xfcef3,
  0x1fca1b202e8,
  0x1fd21b202e8,
  0x122901,
  0x21d1ef4e6e3,
  0x103300,
  0x103d00,
  0x105500,
  0x105f00,
  0x107500,
  0x107b00,
  0x1510ea,
  0x12d301,
  0x12fd01,
  0x132301,
  0x2bb93d3929c,
  0x3ed28e140eb3b074,
  0x10b0f1,
  0x10b4f0,
  0x10b6f2,
  0x2785393c093,
  0x10befb,
  0x10c0fb,
  0x10c8f1,
  0x10cef2,
  0x27b5393d893,
  0x10d2fb,
  0x14ccea,
  0x43b28e460eb4d074,
  0x43b28e460eb4d274,
  0x21aded3e688,
  0x21b9ed3e688,
  0x1222f7,
  0x1224f7,
  0x122ef7,
  0x10e8f7,
  0x1240f1,
  0x24a54742675,
  0x1512ea,
  0x2311ed3e688,
  0x12ccf7,
  0x12cef7,
  0x12d4f7,
  0x12f6f7,
  0x12f8f7,
  0x12fef7,
  0x131cf7,
  0x131ef7,
  0x1324f7,
  0x28dd3946693,
  0x28e13946893,
  0x11baef,
  0x14a6a3,
  0x11c108,
  0x11c303,
  0x12a703]

/-- Tables 832 to 895. -/
def gotos13 : List Nat := [
  0x11ccfa,
  0x11d106,
  0x11d502,
  0x11d6ef,
  0x11e508,
  0x124f03,
  0x5ae87,
  0x11ecf5,
  0x11f0fa,
  0x11f2fa,
  0x14ca9e,
  0x11f706,
  0x11f902,
  0x11fafd,
  0x11fcfd,
  0x120105,
  0x14ceea,
  0x5b887,
  0x5bc87,
  0x125afa,
  0x1212fd,
  0x121505,
  0x14dcea,
  0x5d687,
  0x1218fc,
  0x122701,
  0x1278f7,
  0x128cf7,
  0x122d01,
  0x123ef1,
  0x124308,
  0x124703,
  0x124b02,
  0x1254f1,
  0x125708,
  0x128103,
  0x125d02,
  0x63087,
  0x64a87,
  0x127d08,
  0x128508,
  0x1282f3,
  0x1294f3,
  0x129cf3,
  0x12a4ef,
  0x12b106,
  0x12b303,
  0x62287,
  0x12befd,
  0x12c0fd,
  0x12c505,
  0x1514ea,
  0x62c87,
  0x1516ea,
  0x12d101,
  0x12dcef,
  0x12e306,
  0x12ecfd,
  0x12f105,
  0x12fb01,
  0x1306ef,
  0x130906,
  0x1310fd,
  0x1312fd]

/-- Tables 896 to 925. -/
def gotos14 : List Nat := [
  0x131705,
  0x132101,
  0x132cef,
  0x132f06,
  0x1336fd,
  0x1338fd,
  0x133d05,
  0x1344ef,
  0x134706,
  0x134efd,
  0x1350fd,
  0x135505,
  0x135cef,
  0x135f06,
  0x1366fd,
  0x1368fd,
  0x136d05,
  0x1374ef,
  0x137706,
  0x137efd,
  0x1380fd,
  0x138505,
  0x138b05,
  0x139105,
  0x15e49e,
  0xf4503,
  0x13e093,
  0x13e893,
  0x146a93,
  0x146c93]

end CallContext.Automaton
