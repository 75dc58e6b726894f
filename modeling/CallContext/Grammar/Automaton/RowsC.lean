/-!
# Packed rows of the automaton, states 1152 to 1727

One number a state; `CallContext.Row.ofCode` says how to read it.
-/

namespace CallContext.Automaton

/-- States 1152 to 1215. -/
def rows18 : List Nat := [
  0x35a1553ad1093ac10dae402d3ab0b51c10093a9045100005aea061c4b0013aa0b13a70fd3a60b9b884693a815125200c00b,
  0xb060a9c4b001b08b07112b0818900000a00c,
  0xb060a9c4b001b08b07112b0818900000a00c,
  0xe6009b250a9c4b001b2746d19a00b00c,
  0xb060a9c4b001b091e9b09b081aa00000a00c,
  0xb060a9c4b001b091e9b09b081aa00000a00c,
  0xb250a9c4b001b311e9b31b271aa00000a00c,
  0xb250a9c4b001b27b26112b2718900000a00c,
  0xc4b001b8f36d00000600b,
  0xb060a9c4b001b08b07116b0818900000c00c,
  0xb060a9c4b001b08b07116b0818900000c00c,
  0xb060a9c4b001b0812100000b00c,
  0xb060a9c4b001b0812100000b00c,
  0xb250a9c4b001b2712100000b00c,
  0xc4b001b9036d00000600b,
  0xb060a9c4b001b091e9b09b081ee00000c00c,
  0xb060a9c4b001b091e9b09b081ee00000c00c,
  0xb250a9c4b001b311e9b31b271ee00000c00c,
  0xc4b001b3421100000a00b,
  0xc4b001b3521100000a00b,
  0xc4b001b3621100000a00b,
  0xc4b001b3621100000a00b,
  0xc4b001b3621100000a00b,
  0xc4b001b3821100000a00b,
  0xc4b001b3821100000a00b,
  0xb250a9c4b001b27b26116b2718900000c00c,
  0xc4b001b8f37100000100b,
  0xc4b001b2e13d00000900b,
  0x102009b250a9c4b001b2747125300c00c,
  0xc4b001b9037100000100b,
  0xc4b001b3013d00000900b,
  0xc4b001b3313d00000900b,
  0xb060a9c4b001b0813500000a00c,
  0xb060a9c4b001b0813500000a00c,
  0xb250a9c4b001b2713500000a00c,
  0xc4b001b2713d00000900b,
  0xb2eb2603ac4b001b2e20d00000900b,
  0xb27b2603ac4b001b2720d00000900b,
  0xc4b001b8f37500000700b,
  0xb30b2f03ac4b001b3020d00000900b,
  0xc4b001b09b080c6b0923d00000900b,
  0xc4b001b09b080c6b0923d00000900b,
  0xb060a9c4b001b0812900000a00c,
  0xb060a9c4b001b0812900000a00c,
  0xb250a9c4b001b2712900000a00c,
  0xb33b3203ac4b001b3320d00000900b,
  0xc4b001b0813d00000900b,
  0xc4b001b0813d00000900b,
  0xc4b001b9113d00000900b,
  0xc4b001b9213d00000900b,
  0xc4b001b9037500000700b,
  0xc4b001b9313d00000900b,
  0xc4b001b9413d00000900b,
  0xc4b001b9513d00000900b,
  0xc4b001b9613d00000900b,
  0xc4b001b9713d00000900b,
  0xc4b001b9813d00000900b,
  0xc4b001b9913d00000900b,
  0xc4b001b9a13d00000900b,
  0xc4b001b9b13d00000900b,
  0xc4b001b9c13d00000900b,
  0xc4b001b9d13d00000900b,
  0xc4b001b9e13d00000900b,
  0xc4b001b9f13d00000900b]

/-- States 1216 to 1279. -/
def rows19 : List Nat := [
  0xc4b001ba013d00000900b,
  0xc4b001ba113d00000900b,
  0xc4b001ba213d00000900b,
  0xc4b001ba313d00000900b,
  0xc4b001ba413d00000900b,
  0xc4b001b2711d00000900b,
  0xc4b001b312b5b31b271e600000900b,
  0xb060a9c4b001b0812500000c00c,
  0xb060a9c4b001b0812500000c00c,
  0xb250a9c4b001b2712500000c00c,
  0xc4b001b0811d00000900b,
  0xc4b001b0811d00000900b,
  0xc4b001b9111d00000900b,
  0xc4b001b9211d00000900b,
  0xc4b001b9311d00000900b,
  0xc4b001b9411d00000900b,
  0xc4b001b9511d00000900b,
  0xc4b001b9611d00000900b,
  0xc4b001b9711d00000900b,
  0xc4b001b9811d00000900b,
  0xc4b001b9911d00000900b,
  0xc4b001b9a11d00000900b,
  0xc4b001b9b11d00000900b,
  0xc4b001b9c11d00000900b,
  0xc4b001b9d11d00000900b,
  0xc4b001b9e11d00000900b,
  0xc4b001b9f11d00000900b,
  0xc4b001ba011d00000900b,
  0xc4b001ba111d00000900b,
  0xc4b001ba211d00000900b,
  0xc4b001ba311d00000900b,
  0xc4b001ba411d00000900b,
  0x3591553a31093a210dad702d3a10b51ba00939f0450ff005a7e061c4b0013a00b139d0fd39c0b9b8847539e15124900a00b,
  0xc4b001b3411d00000900b,
  0xc4b001b3511d00000900b,
  0xc4b001b3611d00000900b,
  0xc4b001b3611d00000900b,
  0xc4b001b3611d00000900b,
  0xc4b001b3811d00000900b,
  0xc4b001b3811d00000900b,
  0x35a1553ad1093ac10dae402d3ab0b51bd0093a9045100005abb061c4b0013aa0b13a70fd3a60b9b884793a815125200c00b,
  0xc4b001b8f37900000600b,
  0xc4b001b31b270c6b3123d00000900b,
  0xc4b001b2e11d00000900b,
  0x1c10093a9045100005aea061c4b001b892c125400c00b,
  0x1c10093a9045100005aea061c4b001b8a2c125400c00b,
  0xc4b001b9037900000600b,
  0xc4b001b3011d00000900b,
  0xc4b001b3311d00000900b,
  0x1c10093a9045100005aea061c4b001b8b2c125400c00b,
  0x1c10093a9045100005aea061c4b0013aa0b13a60b9b8b47d25400c00b,
  0x3ad1093ac10d3ab0b51c10093a9045100005aea061c4b0013aa0b13a70fd3a60b9b8c24d25400c00b,
  0x1c10093a9045100005aea061c4b001b8b2c125400c00b,
  0x1c10093a9045100005aea061c4b0013a60b9b8b48125400c00b,
  0x3ad1093ac10d1c10093a9045100005aea061c4b0013aa0b13a70fd3a60b9b8b48525400c00b,
  0x3ad1091c10093a9045100005aea061c4b0013aa0b13a70fd3a60b9b8b48925400c00b,
  0x1c10093a9045100005aea061c4b0013aa0b13a70fd3a60b9b8b48d25400c00b,
  0x3ad1093ac10d3ab0b51c10093a9045100005aea061c4b0013aa0b13a70fd3a60b9b8d24d25400c00b,
  0x3ad1093ac10d3ab0b51c10093a9045100005aea061c4b0013aa0b13a70fd3a60b9b8e24d25400c00b,
  0xc4b001b09b080c6b0923900000900b,
  0xc4b001b09b080c6b0923900000900b,
  0xc4b001b31b270c6b3123900000900b,
  0x35815539910939810daca02d3970b51be0093950450fe005ac9061c4b0013960b13930fd3920b9b8849139415123900900b,
  0xc4b001b2e12100000b00b]

/-- States 1280 to 1343. -/
def rows20 : List Nat := [
  0xc4b001b3012100000b00b,
  0xc4b001b3312100000b00b,
  0xc4b001b2713500000a00b,
  0xc4b001b2eb26112b2e18900000a00b,
  0xc4b001b27b26112b2718900000a00b,
  0xc4b001b30b2f112b3018900000a00b,
  0xc4b001b09b080c6b091fd00000b00b,
  0xc4b001b09b080c6b091fd00000b00b,
  0xc4b001b311e9b31b271aa00000a00b,
  0xc4b001b33b32112b3318900000a00b,
  0xc4b001b0813500000a00b,
  0xc4b001b0813500000a00b,
  0xc4b001b9113500000a00b,
  0xc4b001b9213500000a00b,
  0xc4b001b9313500000a00b,
  0xc4b001b9413500000a00b,
  0xc4b001b391d5b312c5b31b2726600000800b,
  0xc4b001b9513500000a00b,
  0xc4b001b9613500000a00b,
  0xc4b001b9713500000a00b,
  0xc4b001b9813500000a00b,
  0x1f315db060a9c4b001b081a900000a00c,
  0x1f315db060a9c4b001b081a900000a00c,
  0x1f415db250a9c4b001b271a900000a00c,
  0xc4b001b9913500000a00b,
  0xc4b001b9a13500000a00b,
  0xc4b001b9b13500000a00b,
  0xc4b001b9c13500000a00b,
  0xc4b001b9d13500000a00b,
  0xc4b001b9e13500000a00b,
  0xc4b001b9f13500000a00b,
  0xc4b001ba013500000a00b,
  0xc4b001ba113500000a00b,
  0xc4b001ba213500000a00b,
  0xc4b001ba313500000a00b,
  0xc4b001ba413500000a00b,
  0xc4b001b2712100000b00b,
  0xc4b001b31b270c6b311fd00000b00b,
  0xc4b001b0812100000b00b,
  0xc4b001b0812100000b00b,
  0xc4b001b9112100000b00b,
  0xc4b001b9212100000b00b,
  0xc4b001b9312100000b00b,
  0xc4b001b9412100000b00b,
  0xc4b001b9512100000b00b,
  0xc4b001b9612100000b00b,
  0xc4b001b9712100000b00b,
  0xc4b001b9812100000b00b,
  0xc4b001b9912100000b00b,
  0xc4b001b9a12100000b00b,
  0xc4b001b9b12100000b00b,
  0xc4b001b9c12100000b00b,
  0xc4b001b9d12100000b00b,
  0xc4b001b9e12100000b00b,
  0xc4b001b9f12100000b00b,
  0xc4b001ba012100000b00b,
  0xc4b001ba112100000b00b,
  0xc4b001ba212100000b00b,
  0xc4b001ba312100000b00b,
  0xc4b001ba412100000b00b,
  0xc4b001b2712500000c00b,
  0xc4b001b2eb26116b2e18900000c00b,
  0xc4b001b27b26116b2718900000c00b,
  0xc4b001b30b2f116b3018900000c00b]

/-- States 1344 to 1407. -/
def rows21 : List Nat := [
  0xc4b001b2e12900000a00b,
  0xc4b001b33b32116b3318900000c00b,
  0xc4b001b0812500000c00b,
  0xc4b001b0812500000c00b,
  0xc4b001b9112500000c00b,
  0xc4b001b9212500000c00b,
  0xc4b001b9312500000c00b,
  0xc4b001b9412500000c00b,
  0xc4b001b3012900000a00b,
  0xc4b001b3312900000a00b,
  0xc4b001b39191b312c5b31b2726600000a00b,
  0xc4b001b9512500000c00b,
  0xc4b001b9612500000c00b,
  0xc4b001b9712500000c00b,
  0xc4b001b3412100000b00b,
  0xc4b001b9812500000c00b,
  0xc4b001b9912500000c00b,
  0xc4b001b9a12500000c00b,
  0xc4b001b9b12500000c00b,
  0xc4b001b9c12500000c00b,
  0xc4b001b9d12500000c00b,
  0xc4b001b9e12500000c00b,
  0xc4b001b9f12500000c00b,
  0xc4b001b3512100000b00b,
  0xc4b001ba012500000c00b,
  0xc4b001ba112500000c00b,
  0xc4b001ba212500000c00b,
  0xc4b001b3612100000b00b,
  0xc4b001b3612100000b00b,
  0xc4b001b3612100000b00b,
  0xc4b001ba312500000c00b,
  0xc4b001ba412500000c00b,
  0xc4b001b3812100000b00b,
  0xc4b001b3812100000b00b,
  0xc4b001b311e9b31b271ee00000c00b,
  0xc4b001b2e13500000a00b,
  0xc4b001b3013500000a00b,
  0xc4b001b3313500000a00b,
  0xc4b001b3412500000c00b,
  0xc4b001b3512500000c00b,
  0xc4b001b3612500000c00b,
  0xc4b001b3612500000c00b,
  0xc4b001b3612500000c00b,
  0xc4b001b3812500000c00b,
  0xc4b001b3812500000c00b,
  0xc4b001b09b080c6b0924900000a00b,
  0xc4b001b09b080c6b0924900000a00b,
  0xc4b001b2e12500000c00b,
  0xc4b001b080c5b0719900000800a,
  0xc4b001b080c5b0719900000800a,
  0xc4b001b3012500000c00b,
  0xc4b001b3312500000c00b,
  0xc4b001b2712900000a00b,
  0xc4b001b09b080c6b0924100000a00b,
  0xc4b001b09b080c6b0924100000a00b,
  0xb060a9c4b001b0812d00000c00c,
  0xb060a9c4b001b0812d00000c00c,
  0xb250a9c4b001b2712d00000c00c,
  0xc4b001b0812900000a00b,
  0xc4b001b0812900000a00b,
  0xc4b001b9112900000a00b,
  0xc4b001b9212900000a00b,
  0xc4b001b9312900000a00b,
  0xc4b001b9412900000a00b]

/-- States 1408 to 1471. -/
def rows22 : List Nat := [
  0xc4b001b9512900000a00b,
  0xc4b001b9612900000a00b,
  0xc4b001b9712900000a00b,
  0xc4b001b9812900000a00b,
  0xc4b001b9912900000a00b,
  0xc4b001b9a12900000a00b,
  0xc4b001b9b12900000a00b,
  0xc4b001b9c12900000a00b,
  0xc4b001b9d12900000a00b,
  0xc4b001b9e12900000a00b,
  0xc4b001b9f12900000a00b,
  0xc4b001ba012900000a00b,
  0xc4b001ba112900000a00b,
  0xc4b001ba212900000a00b,
  0xc4b001ba312900000a00b,
  0xc4b001ba412900000a00b,
  0xc4b001b3412900000a00b,
  0xc4b001b3512900000a00b,
  0xc4b001b3612900000a00b,
  0xc4b001b3612900000a00b,
  0xc4b001b3612900000a00b,
  0xc4b001b3812900000a00b,
  0xc4b001b3812900000a00b,
  0xc4b001b8f37d00000700b,
  0xc4b001b09b080c6b0924500000c00b,
  0xc4b001b09b080c6b0924500000c00b,
  0xc4b001b31b270c6b3124900000a00b,
  0xc4b001b9037d00000700b,
  0xc4b001b2e0c5b2619900000800a,
  0xc4b001b270c5b2619900000800a,
  0xc4b001b300c5b2f19900000800a,
  0xc4b001b31b270c6b3124100000a00b,
  0xc4b001b330c5b3219900000800a,
  0xc4b001b31b270c6b3124500000c00b,
  0xc4b001b39215b312c5b31b2726600000b00b,
  0xc4b001b39195b312c5b31b2726600000c00b,
  0xb060a9c4b001b09b081aa00000a00c,
  0xb060a9c4b001b09b081aa00000a00c,
  0xb250a9c4b001b31b271aa00000a00c,
  0xb060a9c4b001b09b081ee00000c00c,
  0xb060a9c4b001b09b081ee00000c00c,
  0xb250a9c4b001b31b271ee00000c00c,
  0xb060a9c4b001b09b081e600000900c,
  0xb060a9c4b001b09b081e600000900c,
  0xb250a9c4b001b31b271e600000900c,
  0xc4b001b2e12d00000c00b,
  0xc4b001b3012d00000c00b,
  0xc4b001b3312d00000c00b,
  0xc4b001b2712d00000c00b,
  0xc4b001b09b080c6b0924d00000c00b,
  0xc4b001b09b080c6b0924d00000c00b,
  0xc4b001b0812d00000c00b,
  0xc4b001b0812d00000c00b,
  0xc4b001b9112d00000c00b,
  0xc4b001b9212d00000c00b,
  0xc4b001b9312d00000c00b,
  0xc4b001b9412d00000c00b,
  0xc4b001b9512d00000c00b,
  0xc4b001b9612d00000c00b,
  0xc4b001b9712d00000c00b,
  0xc4b001b9812d00000c00b,
  0xc4b001b9912d00000c00b,
  0xc4b001b9a12d00000c00b,
  0xc4b001b9b12d00000c00b]

/-- States 1472 to 1535. -/
def rows23 : List Nat := [
  0xc4b001b9c12d00000c00b,
  0xc4b001b9d12d00000c00b,
  0xc4b001b9e12d00000c00b,
  0xc4b001b9f12d00000c00b,
  0xc4b001ba012d00000c00b,
  0xc4b001ba112d00000c00b,
  0xc4b001ba212d00000c00b,
  0xc4b001ba312d00000c00b,
  0xc4b001ba412d00000c00b,
  0xc4b001b3412d00000c00b,
  0xc4b001b3512d00000c00b,
  0xc4b001b3612d00000c00b,
  0xc4b001b3612d00000c00b,
  0xc4b001b3612d00000c00b,
  0xc4b001b3812d00000c00b,
  0xc4b001b3812d00000c00b,
  0xc4b001b31b270c6b3124d00000c00b,
  0xc4b001b080c5b0719d00000b00a,
  0xc4b001b080c5b0719d00000b00a,
  0xc4b001b2e0c5b2619d00000b00a,
  0xc4b001b270c5b2619d00000b00a,
  0xc4b001b300c5b2f19d00000b00a,
  0xc4b001b330c5b3219d00000b00a,
  0xc4b001b3421900000b00a,
  0xc4b001b3521900000b00a,
  0xc4b001b3621900000b00a,
  0xc4b001b3621900000b00a,
  0xc4b001b3621900000b00a,
  0xc4b001b3821900000b00a,
  0xc4b001b3821900000b00a,
  0xc4b001b0919db09b080c600000b00a,
  0xc4b001b0919db09b080c600000b00a,
  0xc4b001b3119db31b270c600000b00a,
  0xc4b001b31b271aa00000a00b,
  0xc4b001b31b271ee00000c00b,
  0xc4b001b31b271e600000900b,
  0x6e201960f0119fd0ed5e700906d04d2460415e60056d200dc4b0017500bd9fc0e97910f1255001005,
  0x6e201960f0119fd0ed5e700907104d2460415e60056d200dc4b0017500bd9fc0e97910f1256001005,
  0x721019614011a280ed5f00097f703d5ef0056dc00dc4b0017b30bda270e98180f1257006003,
  0x725019619011a2c0ed7f905d5f90095f80056de00dc4b0017c10bda2b0e98280f1258007003,
  0x721019614011a280ed5f000980603d5ef0056dc00dc4b0017b30bda270e98180f1259006003,
  0x721019614011a280ed5f000980803d5ef0056dc00dc4b0017b30bda270e98180f125a006003,
  0x725019619011a2c0ed80905d5f90095f80056de00dc4b0017c10bda2b0e98280f125b007003,
  0x721019614011a280ed5f000981003d5ef0056dc00dc4b0017b30bda270e98180f125a006003,
  0x725019619011a2c0ed81105d5f90095f80056de00dc4b0017c10bda2b0e98280f125b007003,
  0x721019614011a280ed5f000981403d5ef0056dc00dc4b0017b30bda270e98180f125a006003,
  0x721019614011a280ed5f000981503d5ef0056dc00dc4b0017b30bda270e98180f125a006003,
  0x721019614011a280ed5f000987b03d5ef0056dc00dc4b0017b30bda270e98180f125c006003,
  0x725019619011a2c0ed87d05d5f90095f80056de00dc4b0017c10bda2b0e98280f125d007003,
  0x721019614011a280ed5f000988403d5ef0056dc00dc4b0017b30bda270e98180f125e006003,
  0x721019614011a280ed5f000988503d5ef0056dc00dc4b0017b30bda270e98180f125a006003,
  0x725019619011a2c0ed88605d5f90095f80056de00dc4b0017c10bda2b0e98280f125b007003,
  0x721019614011a280ed5f000988d03d5ef0056dc00dc4b0017b30bda270e98180f125a006003,
  0x725019619011a2c0ed88e05d5f90095f80056de00dc4b0017c10bda2b0e98280f125b007003,
  0x721019614011a280ed5f000989103d5ef0056dc00dc4b0017b30bda270e98180f125a006003,
  0x721019614011a280ed5f000989203d5ef0056dc00dc4b0017b30bda270e98180f125a006003,
  0x721019614011a280ed5f000989303d5ef0056dc00dc4b0017b30bda270e98180f125f006003,
  0x725019619011a2c0ed89505d5f90095f80056de00dc4b0017c10bda2b0e98280f1260007003,
  0x721019614011a280ed5f000989c03d5ef0056dc00dc4b0017b30bda270e98180f1261006003,
  0x721019614011a280ed5f000989d03d5ef0056dc00dc4b0017b30bda270e98180f125a006003,
  0x725019619011a2c0ed89e05d5f90095f80056de00dc4b0017c10bda2b0e98280f125b007003,
  0x721019614011a280ed5f00098a503d5ef0056dc00dc4b0017b30bda270e98180f125a006003,
  0x725019619011a2c0ed8a605d5f90095f80056de00dc4b0017c10bda2b0e98280f125b007003,
  0x721019614011a280ed5f00098a903d5ef0056dc00dc4b0017b30bda270e98180f125a006003]

/-- States 1536 to 1599. -/
def rows24 : List Nat := [
  0x721019614011a280ed5f00098aa03d5ef0056dc00dc4b0017b30bda270e98180f125a006003,
  0x721019614011a280ed5f00098ab03d5ef0056dc00dc4b0017b30bda270e98180f1262006003,
  0x725019619011a2c0ed8ac05d5f90095f80056de00dc4b0017c10bda2b0e98280f1263007003,
  0x721019614011a280ed5f00098b303d5ef0056dc00dc4b0017b30bda270e98180f1264006003,
  0x721019614011a280ed5f00098b403d5ef0056dc00dc4b0017b30bda270e98180f125a006003,
  0x725019619011a2c0ed8b505d5f90095f80056de00dc4b0017c10bda2b0e98280f125b007003,
  0x721019614011a280ed5f00098bc03d5ef0056dc00dc4b0017b30bda270e98180f125a006003,
  0x725019619011a2c0ed8bd05d5f90095f80056de00dc4b0017c10bda2b0e98280f125b007003,
  0x721019614011a280ed5f00098c003d5ef0056dc00dc4b0017b30bda270e98180f125a006003,
  0x721019614011a280ed5f00098c103d5ef0056dc00dc4b0017b30bda270e98180f125a006003,
  0x6e201960f0119fd0ed5e70095e60056d200dc4b0017500bd9fc0e97910f1265001003,
  0x73101961e011a300ed6020096010056da00dc4b0017d10bda2f0e98380f1266001003,
  0x6e201960f0119fd0ed5e70095e60056d200dc4b0017500bd9fc0e97910f1267001003,
  0x721019614011a280ed5f00095ef0056dc00dc4b0017b30bda270e98180f125a001003,
  0x725019619011a2c0ed5f90095f80056de00dc4b0017c10bda2b0e98280f125b001003,
  0x6e30197fa06960f0119fd0ed5e70095e60056d200dc4b0017500bda2f0e990e0f1268005003,
  0x6e301980b06960f0119fd0ed5e70095e60056d200dc4b0017500bda2f0e990e0f1269005003,
  0x6e301980d06960f0119fd0ed5e70095e60056d200dc4b0017500bda2f0e990e0f1269005003,
  0x6e301981206960f0119fd0ed5e70095e60056d200dc4b0017500bda2f0e990e0f1269005003,
  0x6e301981306960f0119fd0ed5e70095e60056d200dc4b0017500bda2f0e990e0f1269005003,
  0x6e301987e06960f0119fd0ed5e70095e60056d200dc4b0017500bda2f0e990e0f126a005003,
  0x6e301988806960f0119fd0ed5e70095e60056d200dc4b0017500bda2f0e990e0f1269005003,
  0x6e301988a06960f0119fd0ed5e70095e60056d200dc4b0017500bda2f0e990e0f1269005003,
  0x6e301988f06960f0119fd0ed5e70095e60056d200dc4b0017500bda2f0e990e0f1269005003,
  0x6e301989006960f0119fd0ed5e70095e60056d200dc4b0017500bda2f0e990e0f1269005003,
  0x6e301989606960f0119fd0ed5e70095e60056d200dc4b0017500bda2f0e990e0f126b005003,
  0x6e30198a006960f0119fd0ed5e70095e60056d200dc4b0017500bda2f0e990e0f1269005003,
  0x6e30198a206960f0119fd0ed5e70095e60056d200dc4b0017500bda2f0e990e0f1269005003,
  0x6e30198a706960f0119fd0ed5e70095e60056d200dc4b0017500bda2f0e990e0f1269005003,
  0x6e30198a806960f0119fd0ed5e70095e60056d200dc4b0017500bda2f0e990e0f1269005003,
  0x6e30198ad06960f0119fd0ed5e70095e60056d200dc4b0017500bda2f0e990e0f126c005003,
  0x6e30198b706960f0119fd0ed5e70095e60056d200dc4b0017500bda2f0e990e0f1269005003,
  0x6e30198b906960f0119fd0ed5e70095e60056d200dc4b0017500bda2f0e990e0f1269005003,
  0x6e30198be06960f0119fd0ed5e70095e60056d200dc4b0017500bda2f0e990e0f1269005003,
  0x6e30198bf06960f0119fd0ed5e70095e60056d200dc4b0017500bda2f0e990e0f1269005003,
  0x6e301960f0119fd0ed5e70095e60056d200dc4b0017500bda2f0e990e0f1269001003,
  0x6e301960f0119fd0ed5e70095e60056d200dc4b0017500bd9fc0e979d0f126d001003,
  0x6e301960f0119fd0ed5e70095e60056d200dc4b0017500bd9fc0e979e0f126e001003,
  0x758019614011a280ed5f00095ef0056dc00dc4b0017b30bda270e981c0f126f001003,
  0x758019614011a280ed5f00095ef0056dc00dc4b0017b30bda270e981d0f1270001003,
  0x761019619011a2c0ed5f90095f80056de00dc4b0017c10bda2b0e982d0f1271001003,
  0x761019619011a2c0ed5f90095f80056de00dc4b0017c10bda2b0e982e0f1272001003,
  0x76501961e011a300ed6020096010056da00dc4b0017d10bda2f0e983b0f1273001003,
  0x76501961e011a300ed6020096010056da00dc4b0017d10bda2f0e983c0f1274001003,
  0x353155a4f02dc4b001361151ba527127500800a,
  0x353c4eb8c156a4fc4eb8c02ec4b001361c4eb8c152b8c27127500800a,
  0x355155a9702dc4b001376151ba527527600b00a,
  0x355c4eb8c156a97c4eb8c02ec4b001376c4eb8c152b8c27527600b00a,
  0xc4b001b07165b080c500000900b,
  0xc4b001b07165b080c500000900b,
  0x359155ad702dc4b00139e151ba527927700a00a,
  0x359c4eb8c156ad7c4eb8c02ec4b00139ec4eb8c152b8c27927700a00a,
  0xc4b001b26165b2e0c500000900b,
  0xc4b001b26165b270c500000900b,
  0xc4b001b2f165b300c500000900b,
  0xc4b001b32165b330c500000900b,
  0x357155abc02dc4b00138a151ba5229278009001,
  0x357c4eb8c156abcc4eb8c02ec4b00138ac4eb8c152b8c229278009001,
  0x358155aca02dc4b001394151ba522d279009001,
  0x358c4eb8c156acac4eb8c02ec4b001394c4eb8c152b8c22d279009001,
  0x35a155ae402dc4b0013a8151ba527d27a00c00a,
  0x35ac4eb8c156ae4c4eb8c02ec4b0013a8c4eb8c152b8c27d27a00c00a,
  0x354155a7f02dc4b00136c151ba523127b00a001,
  0xc4b001b181ddb080c500000a00b]

/-- States 1600 to 1663. -/
def rows25 : List Nat := [
  0xc4b001b181ddb080c500000a00b,
  0xc4b001ba61ddb270c500000a00b,
  0x354c4eb8c156a7fc4eb8c02ec4b00136cc4eb8c152b8c23127b00a001,
  0xdf039c4b001b0a29927c008004,
  0x356155aaa02dc4b001380151ba523527d00c001,
  0x356c4eb8c156aaac4eb8c02ec4b001380c4eb8c152b8c23527d00c001,
  0x350c4eba703ac4b001ba729927c008004,
  0xc4b001b091ddb080c500000a00b,
  0xc4b001b091ddb080c500000a00b,
  0xc4b001b311ddb270c500000a00b,
  0x37b10937a10d3790b51950093770450fb005a4e061c4b0013780b13750fd3740b924c00b00b,
  0xc4b001b07201b080c500000b00b,
  0xc4b001b07201b080c500000b00b,
  0xc4b001b18141b080c500000b00b,
  0xc4b001b18141b080c500000b00b,
  0xc4b001ba6141b270c500000b00b,
  0xc4b001b07111b080c500000a00b,
  0xc4b001b07111b080c500000a00b,
  0xc4b001b26201b2e0c500000b00b,
  0xc4b001b26201b270c500000b00b,
  0xc4b001b2f201b300c500000b00b,
  0xc4b001b32201b330c500000b00b,
  0xc4b001b09141b080c500000b00b,
  0xc4b001b09141b080c500000b00b,
  0xc4b001b07115b080c500000c00b,
  0xc4b001b07115b080c500000c00b,
  0xc4b001b26199000008004,
  0xc4b001ba8199000008004,
  0xc4b001ba9199000008004,
  0xc4b001ba7199000008004,
  0xc4b001b26111b2e0c500000a00b,
  0xc4b001b26111b270c500000a00b,
  0xc4b001b2f111b300c500000a00b,
  0xc4b001b32111b330c500000a00b,
  0xc4b001b31141b270c500000b00b,
  0xc4b001b26115b2e0c500000c00b,
  0xc4b001b26115b270c500000c00b,
  0xc4b001b2f115b300c500000c00b,
  0xc4b001b32115b330c500000c00b,
  0x37b10937a10d3790b51bc0093770450fb005aa9061c4b0013780b13750fd3740b924c00b00b,
  0x37b10937a10d3790b51bb0093770450fb005a96061c4b0013780b13750fd3740b924c00b00b,
  0x37b10937a10d3790b51ba0093770450fb005a7e061c4b0013780b13750fd3740b924c00b00b,
  0x37b10937a10d3790b51c20093770450fb005aeb061c4b0013780b13750fd3740b924c00b00b,
  0x37b10937a10d3790b51bf0093770450fb005ad6061c4b0013780b13750fd3740b924c00b00b,
  0x37b10937a10d3790b51c00093770450fb005ae3061c4b0013780b13750fd3740b924c00b00b,
  0x37b10937a10d3790b51c10093770450fb005aea061c4b0013780b13750fd3740b924c00b00b,
  0x37b10937a10d3790b51bd0093770450fb005abb061c4b0013780b13750fd3740b924c00b00b,
  0x37b10937a10d3790b51be0093770450fb005ac9061c4b0013780b13750fd3740b924c00b00b,
  0x8da0199db17135e0451e104d3510152c9005c4b00127e00b005,
  0xc115d0e404d0e3039c4b0010c22c927f00b004,
  0xc4b001b262cd00000b004,
  0xeb039c4b001b0a16928000b004,
  0xc4b001ba82cd00000b004,
  0xc4b001ba92cd00000b004,
  0xc4b001ba72cd00000b004,
  0xc115d0e404dc4b001baa1050c22c9000008004,
  0x34bc4eba703ac4b001ba716928000b004,
  0x8da0199db17135e0451a604d3510152c9005c4b00128100b005,
  0x8da0199db17135e0451fe04d3510152c9005c4b00128200b005,
  0xc115d0e404d0de039c4b0010c22c928300b004,
  0x8da0199db17135e04520b04d3510152c9005c4b00128400b005,
  0x8da0199db17135e04521304d3510152c9005c4b00128500b005,
  0x8da0199db17135e04521a04d3510152c9005c4b00128600b005,
  0x8da0199db17135e04522104d3510152c9005c4b00128700b005]

/-- States 1664 to 1727. -/
def rows26 : List Nat := [
  0x8da0199db17135e04522804d3510152c9005c4b00128800b005,
  0x8da0199db17135e04522f04d3510152c9005c4b00128900b005,
  0x8da0199db17135e0451b204d3510152c9005c4b00128a00b005,
  0x8da0199db17135e0451b704d3510152c9005c4b00128b00b005,
  0x877019a0e1713b30453520159ef03d2ce005c4b00128c00a003,
  0xc115d0e404dc4b0010c22c900000b004,
  0x8da0199db17135e0453510152c9005bab04dc4b00128d00b005,
  0x8da0199db17135e0453510152c9005bac04dc4b00128d00b005,
  0x877019a0e1713b30453520152ce005bab03dc4b00128e00a003,
  0x877019a0e1713b30453520152ce005bac03dc4b00128e00a003,
  0x8da0199db17135e0453510152c9005c4b00128d00b003,
  0x877019a0e1713b30453520152ce005c4b00128e00b003,
  0xc4b001b8827100000800a,
  0x21e05921d0553470a1b020a51eb04d25004121c05114d039bad069c4b00128f009001,
  0xc4b001bae27100000800a,
  0x1e70591e60551e50411e4051c4b001baf2f100000800a,
  0x1e70591e60551e4bb0052c4b001bb049500000800a,
  0x1e70591e6055c4b001bb149900000800a,
  0xc4b001bb227100000800a,
  0x1e6055c4b001bb249d00000800a,
  0x1e70591e60551e50411e4051c4b001bb32f100000800a,
  0x1e70591e60551e50411e4051c4b001bb42f100000800a,
  0x21e05921d0553470a1b020a51eb04d25004121c05114d039bad069c4b001290009001,
  0x21e05921d0553470a1b020a51eb04d25004121c05114d039bad069c4b001291009001,
  0x21e05921d0553470a1b020a51eb04d25004121c05114d039bad069c4b001292009001,
  0x21e05921d0553470a1b020a51eb04d25004121c05114d039bad069c4b001293009001,
  0x21e05921d0553470a1b020a51eb04d25004121c05114d039bad069c4b001294009001,
  0x21e05921d0553470a1b020a51eb04d25004121c05114d039bad069c4b001295009001,
  0x21e05921d0553470a1b020a51eb04d25004121c05114d039bad069c4b001296009001,
  0x2030592020552d30a1a540a524d04120105113e03941903dc4b00129700a001,
  0x2170592160553450a1b000a524f041215051145039bad05dc4b00129800c001,
  0x2030592020552d30a1a540a524d04120105113ebb503a52a03dc4b00129900a001,
  0x2030592020552d30a1a540a524d04120105110b03942703dc4b00129a00a001,
  0x1e70591e60551e50411e4051194039c4b001bb6105bb735529b00800a,
  0x2030592020552d30a1a540a524d04120105113e03950e03dc4b00129c00a001,
  0x2030592020552d30a1a540a524d04120105111203951d03dc4b00129d00a001,
  0x2030592020552d30a1a540a524d04120105113e03952a03dc4b00129900a001,
  0x2030592020552d30a1a540a524d04120105111903953503dc4b00129e00a001,
  0x2030592020552d30a1a540a524d04120105113e03954603dc4b00129f00a001,
  0x2030592020552d30a1a540a524d04120105112003955503dc4b0012a000a001,
  0x2030592020552d30a1a540a524d04120105113e0394b303dc4b0012a100a001,
  0x2030592020552d30a1a540a524d0412010511270394be03dc4b0012a200a001,
  0x2030592020552d30a1a540a524d04120105113e0394ce03dc4b0012a300a001,
  0x2030592020552d30a1a540a524d04120105112e0394d903dc4b0012a400a001,
  0x2030592020552d30a1a540a524d04120105113e03957e03dc4b0012a500a001,
  0x2030592020552d30a1a540a524d04120105113403958903dc4b0012a600a001,
  0x2030592020552d30a1a540a524d04120105113e0395b703dc4b0012a700a001,
  0x2030592020552d30a1a540a524d04120105113a0395c203dc4b0012a800a001,
  0x2170592160553450a1b000a524f041215051145039bad05dc4b0012a900c001,
  0x2170592160553450a1b000a524f041215051145039bad05dc4b0012aa00c001,
  0x2170592160553450a1b000a524f041215051145039bad05dc4b0012ab00c001,
  0x2170592160553450a1b000a524f041215051145039bad05dc4b0012ac00c001,
  0x2170592160553450a1b000a524f041215051145039bad05dc4b0012ad00c001,
  0x2170592160553450a1b000a524f041215051145039bad05dc4b0012ae00c001,
  0x2170592160553450a1b000a524f041215051145039bad05dc4b0012af00c001,
  0xe00113e016dc4b00173f1612b000d000,
  0xe00113e416dc4b00173f1612b100d000,
  0x225059224055251041223051146039c4b001bb81e12b2009001,
  0xe0c4ebb9012bb916dc4b00173fc4ebb91622b100d000,
  0x1e70591e60551e50411e4051c4b001bb71d500000800a,
  0xc4b001b8827500000b00a,
  0xc4b001bae27500000b00a,
  0x20f05920e05524e04120d051c4b001baf2f500000b00a,
  0x20f05920e05520dbb0052c4b001bb04a100000b00a]

end CallContext.Automaton
