/-!
# Packed rows of the automaton, states 0 to 575

One number a state; `CallContext.Row.ofCode` says how to read it.
-/

namespace CallContext.Automaton

/-- States 0 to 63. -/
def rows00 : List Nat := [
  0xc4b001c4d395000000000,
  0x9a02125a0191550496700351dc02d0bf0111db0c90be009a3d0d504901d1c7099a3c095a3b091a3a0c11910d1a390e51da0e12cf0a11c60a50550dd1d90419d608d9d50899d40851540811c507d16b0791d807505307135b0150bd00573e06584f06d6b700db0328dc4b00135c025414029001001001,
  0x9a02125a0191550496700351dc02d0bf0111db0c90be009afb0d504901d1c7099a3c095a3b091afc0c11c30d1afa0e52550e13490a11d70a50560dd2540419d608d9d50899d40851540811c507d16b0791d807505307135b0150bd00573e06584f06d6b700d8f70d9c4b00135c025414029002002001,
  0x9a02125a0191550496700351dc02d0bf0111db0c90be009afb0d504901d1c7099a3c095a3b091afc0c11c30d1afa0e52550e13490a11d70a50560dd2540419d608d9d50899d40851540811c507d16b0791d807505307135b0150bd00573e06584f06d6b700d28c0d9c4b00135c025414029003002001,
  0x9a02125a0191550496700351dc02d0bf0111db0c90be009afb0d504901d1c7099a3c095a3b091afc0c11c30d1afa0e52550e13490a11d70a50560dd2540419d608d9d50899d40851540811c507d16b0791d807505307135b0150bd00573e06584f06d6b700d28c0d9c4b00135c025414029004002001,
  0x9a02125a0191550496700351dc02d0bf0111db0c90be009afb0d504901d1c7099a3c095a3b091afc0c11c30d1afa0e52550e13490a11d70a50560dd2540419d608d9d50899d40851540811c507d16b0791d807505307135b0150bd00573e06584f06d6b700d28c0d9c4b00135c025414029005002001,
  0x9a02125a0191550496700351dc02d0bf0111db0c90be009afb0d504901d1c7099a3c095a3b091afc0c11c30d1afa0e52550e13490a11d70a50560dd2540419d608d9d50899d40851540811c507d16b0791d807505307135b0150bd00573e06584f06d6b700d28c0d9c4b00135c025414029006002001,
  0x9a02125a0191550496700351dc02d0bf0111db0c90be009afb0d504901d1c7099a3c095a3b091afc0c11c30d1afa0e52550e13490a11d70a50560dd2540419d608d9d50899d40851540811c507d16b0791d807505307135b0150bd00573e06584f06d6b700d28c0d9c4b00135c025414029007002001,
  0x9a02125a0191550496700351dc02d0bf0111db0c90be009afb0d504901d1c7099a3c095a3b091afc0c11c30d1afa0e52550e13490a11d70a50560dd2540419d608d9d50899d40851540811c507d16b0791d807505307135b0150bd00573e06584f06d6b700d28c0d9c4b00135c025414029008002001,
  0x9a02125a0191550496700351dc02d0bf0111db0c90be009afb0d504901d1c7099a3c095a3b091afc0c11c30d1afa0e52550e13490a11d70a50560dd2540419d608d9d50899d40851540811c507d16b0791d807505307135b0150bd00573e06584f06d6b700d28c0d9c4b00135c025414029009002001,
  0x9a02125a0191550496700351dc02d0bf0111db0c90be009afb0d504901d1c7099a3c095a3b091afc0c11c30d1afa0e52550e13490a11d70a50560dd2540419d608d9d50899d40851540811c507d16b0791d807505307135b0150bd00573e06584f06d6b700d28c0d9c4b00135c02541402900a002001,
  0x9a02125a0191550496700351dc02d0bf0111db0c90be009afb0d504901d1c7099a3c095a3b091afc0c11c30d1afa0e52550e13490a11d70a50560dd2540419d608d9d50899d40851540811c507d16b0791d807505307135b0150bd00573e06584f06d6b700d28c0d9c4b00135c02541402900b002001,
  0x9a02125a0191550496700351dc02d0bf0111db0c90be009afb0d504901d1c7099a3c095a3b091afc0c11c30d1afa0e52550e13490a11d70a50560dd2540419d608d9d50899d40851540811c507d16b0791d807505307135b0150bd00573e06584f06d6b700d28c0d9c4b00135c02541402900c002001,
  0x9a02125a0191550496700351dc02d0bf0111db0c90be009afb0d504901d1c7099a3c095a3b091afc0c11c30d1afa0e52550e13490a11d70a50560dd2540419d608d9d50899d40851540811c507d16b0791d807505307135b0150bd00573e06584f06d6b700d29c0d9c4b00135c02541402900d002001,
  0x9a02125a0191550496700351dc02d0bf0111db0c90be009afb0d504901d1c7099a3c095a3b091afc0c11c30d1afa0e52550e13490a11d70a50560dd2540419d608d9d50899d40851540811c507d16b0791d807505307135b0150bd00573e06584f06d6b700d28c0d9c4b00135c02541402900e002001,
  0x9a02125a0191550496700351dc02d0bf0111db0c90be009afb0d504901d1c7099a3c095a3b091afc0c11c30d1afa0e52550e13490a11d70a50560dd2540419d608d9d50899d40851540811c507d16b0791d807505307135b0150bd00573e06584f06d6b700d28c0d9c4b00135c02541402900f002001,
  0x9a02125a0191550496700351dc02d0bf0111db0c90be009afb0d504901d1c7099a3c095a3b091afc0c11c30d1afa0e52550e13490a11d70a50560dd2540419d608d9d50899d40851540811c507d16b0791d807505307135b0150bd00573e06584f06d6b700d28c0d9c4b00135c025414029010002001,
  0x9a02125a0191550496700351dc02d0bf0111db0c90be009afb0d504901d1c7099a3c095a3b091afc0c11c30d1afa0e52550e13490a11d70a50560dd2540419d608d9d50899d40851540811c507d16b0791d807505307135b0150bd00573e06584f06d6b700d28c0d9c4b00135c025414029011002001,
  0x9a02125a0191550496700351dc02d0bf0111db0c90be009afb0d504901d1c7099a3c095a3b091afc0c11c30d1afa0e52550e13490a11d70a50560dd2540419d608d9d50899d40851540811c507d16b0791d807505307135b0150bd00573e06584f06d6b700d28c0d9c4b00135c025414029012002001,
  0x9a02125a0191550496700351dc02d0bf0111db0c90be009afb0d504901d1c7099a3c095a3b091afc0c11c30d1afa0e52550e13490a11d70a50560dd2540419d608d9d50899d40851540811c507d16b0791d807505307135b0150bd00573e06584f06d6b700d28c0d9c4b00135c025414029013002001,
  0x9a02125a0191550496700351dc02d0bf0111db0c90be009afb0d504901d1c7099a3c095a3b091afc0c11c30d1afa0e52550e13490a11d70a50560dd2540419d608d9d50899d40851540811c507d16b0791d807505307135b0150bd00573e06584f06d6b700d29c0d9c4b00135c025414029014002001,
  0x9a02125a0191550496700351dc02d0bf0111db0c90be009afb0d504901d1c7099a3c095a3b091afc0c11c30d1afa0e52550e13490a11d70a50560dd2540419d608d9d50899d40851540811c507d16b0791d807505307135b0150bd00573e06584f06d6b700d2a10d9c4b00135c025414029015002001,
  0x9a02125a0191550496700351dc02d0bf0111db0c90be009afb0d504901d1c7099a3c095a3b091afc0c11c30d1afa0e52550e13490a11d70a50560dd2540419d608d9d50899d40851540811c507d16b0791d807505307135b0150bd00573e06584f06d6b700d28c0d9c4b00135c025414029016002001,
  0x9a02125a0191550496700351dc02d0bf0111db0c90be009afb0d504901d1c7099a3c095a3b091afc0c11c30d1afa0e52550e13490a11d70a50560dd2540419d608d9d50899d40851540811c507d16b0791d807505307135b0150bd00573e06584f06d6b700d28c0d9c4b00135c025414029017002001,
  0x9a02125a0191550496700351dc02d0bf0111db0c90be009afb0d504901d1c7099a3c095a3b091afc0c11c30d1afa0e52550e13490a11d70a50560dd2540419d608d9d50899d40851540811c507d16b0791d807505307135b0150bd00573e06584f06d6b700da240d9c4b00135c025414029018002001,
  0x9a02125a0191550496700351dc02d0bf0111db0c90be009afb0d504901d1c7099a3c095a3b091afc0c11c30d1afa0e52550e13490a11d70a50560dd2540419d608d9d50899d40851540811c507d16b0791d807505307135b0150bd00573e06584f06d6b700d28c0d9c4b00135c025414029019002001,
  0x9a02125a0191550496700351dc02d0bf0111db0c90be009afb0d504901d1c7099a3c095a3b091afc0c11c30d1afa0e52550e13490a11d70a50560dd2540419d608d9d50899d40851540811c507d16b0791d807505307135b0150bd00573e06584f06d6b700d28c0d9c4b00135c02541402901a002001,
  0x9a02125a0191550496700351dc02d0bf0111db0c90be009afb0d504901d1c7099a3c095a3b091afc0c11c30d1afa0e52550e13490a11d70a50560dd2540419d608d9d50899d40851540811c507d16b0791d807505307135b0150bd00573e06584f06d6b700da240d9c4b00135c02541402901b002001,
  0x9a02125a0191550496700351dc02d0bf0111db0c90be009afb0d504901d1c7099a3c095a3b091afc0c11c30d1afa0e52550e13490a11d70a50560dd2540419d608d9d50899d40851540811c507d16b0791d807505307135b0150bd00573e06584f06d6b700da240d9c4b00135c02541402901c002001,
  0x9a02125a0191550496700351dc02d0bf0111db0c90be009afb0d504901d1c7099a3c095a3b091afc0c11c30d1afa0e52550e13490a11d70a50560dd2540419d608d9d50899d40851540811c507d16b0791d807505307135b0150bd00573e06584f06d6b700d28c0d9c4b00135c02541402901d002001,
  0x9a02125a0191550496700351dc02d0bf0111db0c90be009afb0d504901d1c7099a3c095a3b091afc0c11c30d1afa0e52550e13490a11d70a50560dd2540419d608d9d50899d40851540811c507d16b0791d807505307135b0150bd00573e06584f06d6b700d29c0d9c4b00135c02541402901e002001,
  0x9a02125a0191550496700351dc02d0bf0111db0c90be009afb0d504901d1c7099a3c095a3b091afc0c11c30d1afa0e52550e13490a11d70a50560dd2540419d608d9d50899d40851540811c507d16b0791d807505307135b0150bd00573e06584f06d6b700d2a10d9c4b00135c02541402901f002001,
  0x9a02125a0191550496700351dc02d0bf0111db0c90be009afb0d504901d1c7099a3c095a3b091afc0c11c30d1afa0e52550e13490a11d70a50560dd2540419d608d9d50899d40851540811c507d16b0791d807505307135b0150bd00573e06584f06d6b700da240d9c4b00135c025414029020002001,
  0x9a02125a0191550496700351dc02d0bf0111db0c90be009afb0d504901d1c7099a3c095a3b091afc0c11c30d1afa0e52550e13490a11d70a50560dd2540419d608d9d50899d40851540811c507d16b0791d807505307135b0150bd00573e06584f06d6b700da240d9c4b00135c025414029021002001,
  0x9a02125a0191550496700351dc02d0bf0111db0c90be009afb0d504901d1c7099a3c095a3b091afc0c11c30d1afa0e52550e13490a11d70a50560dd2540419d608d9d50899d40851540811c507d16b0791d807505307135b0150bd00573e06584f06d6b700da240d9c4b00135c025414029022002001,
  0x9a02125a0191550496700351dc02d0bf0111db0c90be009afb0d504901d1c7099a3c095a3b091afc0c11c30d1afa0e52550e13490a11d70a50560dd2540419d608d9d50899d40851540811c507d16b0791d807505307135b0150bd00573e06584f06d6b700d2a60d9c4b00135c025414029023002001,
  0x9a02125a0191550496700351dc02d0bf0111db0c90be009afb0d504901d1c7099a3c095a3b091afc0c11c30d1afa0e52550e13490a11d70a50560dd2540419d608d9d50899d40851540811c507d16b0791d807505307135b0150bd00573e06584f06d6b700d2a60d9c4b00135c025414029024002001,
  0x9a02125a0191550496700351dc02d0bf0111db0c90be009afb0d504901d1c7099a3c095a3b091afc0c11c30d1afa0e52550e13490a11d70a50560dd2540419d608d9d50899d40851540811c507d16b0791d807505307135b0150bd00573e06584f06d6b700d2a60d9c4b00135c025414029025002001,
  0x9a02125a0191550496700351dc02d0bf0111db0c90be009afb0d504901d1c7099a3c095a3b091afc0c11c30d1afa0e52550e13490a11d70a50560dd2540419d608d9d50899d40851540811c507d16b0791d807505307135b0150bd00573e06584f06d6b700d2a60d9c4b00135c025414029026002001,
  0x9a02125a0191550496700351dc02d0bf0111db0c90be009afb0d504901d1c7099a3c095a3b091afc0c11c30d1afa0e52550e13490a11d70a50560dd2540419d608d9d50899d40851540811c507d16b0791d807505307135b0150bd00573e06584f06d6b700d2a60d9c4b00135c025414029027002001,
  0x9a02125a0191550496700351dc02d0bf0111db0c90be009afb0d504901d1c7099a3c095a3b091afc0c11c30d1afa0e52550e13490a11d70a50560dd2540419d608d9d50899d40851540811c507d16b0791d807505307135b0150bd00573e06584f06d6b700d2a60d9c4b00135c025414029028002001,
  0x9a02125a0191550496700351dc02d0bf0111db0c90be009afb0d504901d1c7099a3c095a3b091afc0c11c30d1afa0e52550e13490a11d70a50560dd2540419d608d9d50899d40851540811c507d16b0791d807505307135b0150bd00573e06584f06d6b700d2a60d9c4b00135c025414029029002001,
  0x9a02125a0191550496700351dc02d0bf0111db0c90be009afb0d504901d1c7099a3c095a3b091afc0c11c30d1afa0e52550e13490a11d70a50560dd2540419d608d9d50899d40851540811c507d16b0791d807505307135b0150bd00573e06584f06d6b700d2a60d9c4b00135c02541402902a002001,
  0x9a02125a0191550496700351dc02d0bf0111db0c90be009afb0d504901d1c7099a3c095a3b091afc0c11c30d1afa0e52550e13490a11d70a50560dd2540419d608d9d50899d40851540811c507d16b0791d807505307135b0150bd00573e06584f06d6b700d2a60d9c4b00135c02541402902b002001,
  0x9a02125a0191550496700351dc02d0bf0111db0c90be009afb0d504901d1c7099a3c095a3b091afc0c11c30d1afa0e52550e13490a11d70a50560dd2540419d608d9d50899d40851540811c507d16b0791d807505307135b0150bd00573e06584f06d6b700d2a60d9c4b00135c02541402902c002001,
  0x9a02125a0191550496700351dc02d0bf0111db0c90be009afb0d504901d1c7099a3c095a3b091afc0c11c30d1afa0e52550e13490a11d70a50560dd2540419d608d9d50899d40851540811c507d16b0791d807505307135b0150bd00573e06584f06d6b700d2ab0d9c4b00135c02541402902d002001,
  0x9a02125a0191550496700351dc02d0bf0111db0c90be009afb0d504901d1c7099a3c095a3b091afc0c11c30d1afa0e52550e13490a11d70a50560dd2540419d608d9d50899d40851540811c507d16b0791d807505307135b0150bd00573e06584f06d6b700d2a60d9c4b00135c02541402902e002001,
  0x9a02125a0191550496700351dc02d0bf0111db0c90be009afb0d504901d1c7099a3c095a3b091afc0c11c30d1afa0e52550e13490a11d70a50560dd2540419d608d9d50899d40851540811c507d16b0791d807505307135b0150bd00573e06584f06d6b700d2a60d9c4b00135c02541402902f002001,
  0x9a02125a0191550496700351dc02d0bf0111db0c90be009afb0d504901d1c7099a3c095a3b091afc0c11c30d1afa0e52550e13490a11d70a50560dd2540419d608d9d50899d40851540811c507d16b0791d807505307135b0150bd00573e06584f06d6b700d2a60d9c4b00135c025414029030002001,
  0x9a02125a0191550496700351dc02d0bf0111db0c90be009afb0d504901d1c7099a3c095a3b091afc0c11c30d1afa0e52550e13490a11d70a50560dd2540419d608d9d50899d40851540811c507d16b0791d807505307135b0150bd00573e06584f06d6b700d2a60d9c4b00135c025414029031002001,
  0x9a02125a0191550496700351dc02d0bf0111db0c90be009afb0d504901d1c7099a3c095a3b091afc0c11c30d1afa0e52550e13490a11d70a50560dd2540419d608d9d50899d40851540811c507d16b0791d807505307135b0150bd00573e06584f06d6b700d2a60d9c4b00135c025414029032002001,
  0x9a02125a0191550496700351dc02d0bf0111db0c90be009afb0d504901d1c7099a3c095a3b091afc0c11c30d1afa0e52550e13490a11d70a50560dd2540419d608d9d50899d40851540811c507d16b0791d807505307135b0150bd00573e06584f06d6b700d2a60d9c4b00135c025414029033002001,
  0x9a02125a0191550496700351dc02d0bf0111db0c90be009afb0d504901d1c7099a3c095a3b091afc0c11c30d1afa0e52550e13490a11d70a50560dd2540419d608d9d50899d40851540811c507d16b0791d807505307135b0150bd00573e06584f06d6b700d2ab0d9c4b00135c025414029034002001,
  0x9a02125a0191550496700351dc02d0bf0111db0c90be009afb0d504901d1c7099a3c095a3b091afc0c11c30d1afa0e52550e13490a11d70a50560dd2540419d608d9d50899d40851540811c507d16b0791d807505307135b0150bd00573e06584f06d6b700d2b00d9c4b00135c025414029035002001,
  0x9a02125a0191550496700351dc02d0bf0111db0c90be009afb0d504901d1c7099a3c095a3b091afc0c11c30d1afa0e52550e13490a11d70a50560dd2540419d608d9d50899d40851540811c507d16b0791d807505307135b0150bd00573e06584f06d6b700d2a60d9c4b00135c025414029036002001,
  0x9a02125a0191550496700351dc02d0bf0111db0c90be009afb0d504901d1c7099a3c095a3b091afc0c11c30d1afa0e52550e13490a11d70a50560dd2540419d608d9d50899d40851540811c507d16b0791d807505307135b0150bd00573e06584f06d6b700d2a60d9c4b00135c025414029037002001,
  0x9a02125a0191550496700351dc02d0bf0111db0c90be009afb0d504901d1c7099a3c095a3b091afc0c11c30d1afa0e52550e13490a11d70a50560dd2540419d608d9d50899d40851540811c507d16b0791d807505307135b0150bd00573e06584f06d6b700d2a60d9c4b00135c025414029038002001,
  0x9a02125a0191550496700351dc02d0bf0111db0c90be009afb0d504901d1c7099a3c095a3b091afc0c11c30d1afa0e52550e13490a11d70a50560dd2540419d608d9d50899d40851540811c507d16b0791d807505307135b0150bd00573e06584f06d6b700d2a60d9c4b00135c025414029039002001,
  0x9a02125a0191550496700351dc02d0bf0111db0c90be009afb0d504901d1c7099a3c095a3b091afc0c11c30d1afa0e52550e13490a11d70a50560dd2540419d608d9d50899d40851540811c507d16b0791d807505307135b0150bd00573e06584f06d6b700d2a60d9c4b00135c02541402903a002001,
  0x9a02125a0191550496700351dc02d0bf0111db0c90be009afb0d504901d1c7099a3c095a3b091afc0c11c30d1afa0e52550e13490a11d70a50560dd2540419d608d9d50899d40851540811c507d16b0791d807505307135b0150bd00573e06584f06d6b700d2ab0d9c4b00135c02541402903b002001,
  0x9a02125a0191550496700351dc02d0bf0111db0c90be009afb0d504901d1c7099a3c095a3b091afc0c11c30d1afa0e52550e13490a11d70a50560dd2540419d608d9d50899d40851540811c507d16b0791d807505307135b0150bd00573e06584f06d6b700d2b00d9c4b00135c02541402903c002001,
  0x9a02125a0191550496700351dc02d0bf0111db0c90be009afb0d504901d1c7099a3c095a3b091afc0c11c30d1afa0e52550e13490a11d70a50560dd2540419d608d9d50899d40851540811c507d16b0791d807505307135b0150bd00573e06584f06d6b700d8f70d9c4b00135c02541402903d002001,
  0x9a02125a0191550496700351dc02d0bf0111db0c90be009a3d0d504901d1c7099a3c095a3b091a3a0c11910d1a390e51da0e12cf0a11c60a50550dd1d90419d608d9d50899d40851540811c507d16b0791d807505307135b0150bd00573e06584f06d6b700db0428dc4b00135c02541402903e001001,
  0x9ac4eb0502225ac4eb0501a155c4eb0504a670c4eb050361dcc4eb0502e0bfc4eb050121dbc4eb050ca0bec4eb0500aa3dc4eb050d6049c4eb0501e1c7c4eb0509aa3cc4eb05096a3bc4eb05092a3ac4eb050c2191c4eb050d2a39c4eb050e61dac4eb050e22cfc4eb050a21c6c4eb050a6055c4eb050de1d9c4eb050429d6c4eb0508e9d5c4eb0508a9d4c4eb05086154c4eb050821c5c4eb0507e16bc4eb0507a1d8c4eb05076053c4eb0507235bc4eb050160bdc4eb0500673ec4eb0506684fc4eb0506eb0528d6b7c4eb0500ec4b00135cc4eb05026414c4eb0502a03e001001]

/-- States 64 to 127. -/
def rows01 : List Nat := [
  0x9a02125a0191550496700351dc02d0bf0111db0c90be009afb0d504901d1c7099a3c095a3b091afc0c11c30d1afa0e52550e13490a11d70a50560dd2540419d608d9d50899d40851540811c507d16b0791d807505307135b0150bd00573e06584f06d6b700d9060d9c4b00135c02541402903f002001,
  0x9ac4eb0502225ac4eb0501a155c4eb0504a670c4eb050361dcc4eb0502e0bfc4eb050121dbc4eb050ca0bec4eb0500aafbc4eb050d6049c4eb0501e1c7c4eb0509aa3cc4eb05096a3bc4eb05092afcc4eb050c21c3c4eb050d2afac4eb050e6255c4eb050e2349c4eb050a21d7c4eb050a6056c4eb050de254c4eb050429d6c4eb0508e9d5c4eb0508a9d4c4eb05086154c4eb050821c5c4eb0507e16bc4eb0507a1d8c4eb05076053c4eb0507235bc4eb050160bdc4eb0500673ec4eb0506684fc4eb0506e6b7c4eb0500eb050d9c4b00135cc4eb05026414c4eb0502a03f002001,
  0x9a02125a0191550496700351dc02d0bf0111db0c90be009afb0d504901d1c7099a3c095a3b091afc0c11c30d1afa0e52550e13490a11d70a50560dd2540419d608d9d50899d40851540811c507d16b0791d807505307135b0150bd00573e06584f06d6b700d28d0d9c4b00135c02541402903f002001,
  0x9a02125a0191550496700351dc02d0bf0111db0c90be009afb0d504901d1c7099a3c095a3b091afc0c11c30d1afa0e52550e13490a11d70a50560dd2540419d608d9d50899d40851540811c507d16b0791d807505307135b0150bd00573e06584f06d6b700d29e0d9c4b00135c02541402903f002001,
  0x9a02125a0191550496700351dc02d0bf0111db0c90be009afb0d504901d1c7099a3c095a3b091afc0c11c30d1afa0e52550e13490a11d70a50560dd2540419d608d9d50899d40851540811c507d16b0791d807505307135b0150bd00573e06584f06d6b700d2a30d9c4b00135c02541402903f002001,
  0x9a02125a0191550496700351dc02d0bf0111db0c90be009afb0d504901d1c7099a3c095a3b091afc0c11c30d1afa0e52550e13490a11d70a50560dd2540419d608d9d50899d40851540811c507d16b0791d807505307135b0150bd00573e06584f06d6b700d2a80d9c4b00135c02541402903f002001,
  0x9a02125a0191550496700351dc02d0bf0111db0c90be009afb0d504901d1c7099a3c095a3b091afc0c11c30d1afa0e52550e13490a11d70a50560dd2540419d608d9d50899d40851540811c507d16b0791d807505307135b0150bd00573e06584f06d6b700da260d9c4b00135c02541402903f002001,
  0x9a02125a0191550496700351dc02d0bf0111db0c90be009afb0d504901d1c7099a3c095a3b091afc0c11c30d1afa0e52550e13490a11d70a50560dd2540419d608d9d50899d40851540811c507d16b0791d807505307135b0150bd00573e06584f06d6b700d2ad0d9c4b00135c02541402903f002001,
  0x9a02125a0191550496700351dc02d0bf0111db0c90be009afb0d504901d1c7099a3c095a3b091afc0c11c30d1afa0e52550e13490a11d70a50560dd2540419d608d9d50899d40851540811c507d16b0791d807505307135b0150bd00573e06584f06d6b700d2b20d9c4b00135c02541402903f002001,
  0xa402148301967c0353b52910ca01148c01d6d200d23fb0802e109b0800aa47b0804635db08016108b08006b08b0703ab060a9c4b0013b5b080b248b031524029b07169b08315040003002,
  0xa402148301967c0353b52910ca01148c01d6d200d23fb0802e109b0800aa47b0804635db08016108b08006b060a9c4b0013b5b080b2b08b0714248b031524029b071b1b08315040003002,
  0x9b0212590191550496700351dc02d0bf0110dd00904a01d1ce099a3c095a3b091a470459d608d9d50899d40851540811c507d16b0791d80750540713690150da00573e06584f06d6b700d0161012fd0adc4b0012690cd35c025414029041004003,
  0x9b0212590191550496700351dc02d0bf0110dd00904a01d1ce099a3c095a3b091a470459d608d9d50899d40851540811c507d16b0791d80750540713690150da00573e06584f06d6b700d0191013010adc4b0012690cd35c025414029042004003,
  0x9b0212590191550496700351dc02d0bf0110dd00904a01d1ce099a3c095a3b091a470459d608d9d50899d40851540811c507d16b0791d80750540713690150da00573e06584f06d6b700d01a1013050adc4b0012690cd35c025414029043004003,
  0x9b0212590191550496700351dc02d0bf0110dd00904a01d1ce099a3c095a3b091a470459d608d9d50899d40851540811c507d16b0791d80750540713690150da00573e06584f06d6b700d01d1013080adc4b0012690cd35c025414029044004003,
  0x9b0212590191550496700351dc02d0bf0110dd00904a01d1ce099a3c095a3b091a470459d608d9d50899d40851540811c507d16b0791d80750540713690150da00573e06584f06d6b700d0361013370adc4b0012690cd35c025414029045004003,
  0x9b0212590191550496700351dc02d0bf0110dd00904a01d1ce099a3c095a3b091a470459d608d9d50899d40851540811c507d16b0791d80750540713690150da00573e06584f06d6b700d03810133b0adc4b0012690cd35c025414029046004003,
  0x9b0212590191550496700351dc02d0bf0110dd00904a01d1ce099a3c095a3b091a470459d608d9d50899d40851540811c507d16b0791d80750540713690150da00573e06584f06d6b700d03910133f0adc4b0012690cd35c025414029047004003,
  0x9b0212590191550496700351dc02d0bf0110dd00904a01d1ce099a3c095a3b091a470459d608d9d50899d40851540811c507d16b0791d80750540713690150da00573e06584f06d6b700d03a1013420adc4b0012690cd35c025414029048004003,
  0x9d0213e301967003535c2910bf0113e201d6b700d1dcb0802e110b0800a1de31d3b4b0801610fb08006b08b0703ab060a9c4b00135cb080b23e1031414029b07169b08319049003002,
  0x9d0213e301967003535c2910bf0113e201d6b700d1dcb0802e110b0800a1de31d3b4b0801610fb08006b060a9c4b00135cb080b2b08b071423e1031414029b071b1b08319049003002,
  0xa402148d01967c0350ca01148c01d6d200d23f02d1090093b0015108005b08b0703ab060a9c4b0013b502548b031524029b07169b0832104a003002,
  0xa402148d01967c0350ca01148c01d6d200d23f02d1090093b0015108005b08b0703ab060a9c4b0013b502548b031524029b07169b0832104b003002,
  0x9a02125a0191550496700351dc02d0bf0110be00904901d1c7099a3c095a3b0919d608d9d50899d40851540811c507d16b0791d807505307135b0150bd00573e06584f06d6b700d00210170b0adc4b0012670cd35c02541402904c004001,
  0x9a02125a0191550496700351dc02d0bf0110be00904901d1c7099a3c095a3b0919d608d9d50899d40851540811c507d16b0791d807505307135b0150bd00573e06584f06d6b700d00310125b0adc4b0012670cd35c02541402904d004001,
  0x9a02125a0191550496700351dc02d0bf0110be00904901d1c7099a3c095a3b0919d608d9d50899d40851540811c507d16b0791d807505307135b0150bd00573e06584f06d6b700d0041012b30adc4b0012670cd35c02541402904e004001,
  0x9a02125a0191550496700351dc02d0bf0110be00904901d1c7099a3c095a3b0919d608d9d50899d40851540811c507d16b0791d807505307135b0150bd00573e06584f06d6b700d0051012d90adc4b0012670cd35c02541402904f004001,
  0x9a02125a0191550496700351dc02d0bf0110be00904901d1c7099a3c095a3b0919d608d9d50899d40851540811c507d16b0791d807505307135b0150bd00573e06584f06d6b700d0061012da0adc4b0012670cd35c025414029050004001,
  0x9a02125a0191550496700351dc02d0bf0110be00904901d1c7099a3c095a3b0919d608d9d50899d40851540811c507d16b0791d807505307135b0150bd00573e06584f06d6b700d0071012df0adc4b0012670cd35c025414029051004001,
  0x9a02125a0191550496700351dc02d0bf0110be00904901d1c7099a3c095a3b0919d608d9d50899d40851540811c507d16b0791d807505307135b0150bd00573e06584f06d6b700d0081012e40adc4b0012670cd35c025414029052004001,
  0x9a02125a0191550496700351dc02d0bf0110be00904901d1c7099a3c095a3b0919d608d9d50899d40851540811c507d16b0791d807505307135b0150bd00573e06584f06d6b700d0091012e60adc4b0012670cd35c025414029053004001,
  0x9a02125a0191550496700351dc02d0bf0110be00904901d1c7099a3c095a3b0919d608d9d50899d40851540811c507d16b0791d807505307135b0150bd00573e06584f06d6b700d00a1012e70adc4b0012670cd35c025414029054004001,
  0x9a02125a0191550496700351dc02d0bf0110be00904901d1c7099a3c095a3b0919d608d9d50899d40851540811c507d16b0791d807505307135b0150bd00573e06584f06d6b700d00b1012ed0adc4b0012670cd35c025414029055004001,
  0x9a02125a0191550496700351dc02d0bf0110be00904901d1c7099a3c095a3b0919d608d9d50899d40851540811c507d16b0791d807505307135b0150bd00573e06584f06d6b700d00c1012b70adc4b0012670cd35c025414029056004001,
  0x9a02125a0191550496700351dc02d0bf0110be00904901d1c7099a3c095a3b0919d608d9d50899d40851540811c507d16b0791d807505307135b0150bd00573e06584f06d6b700d00d1012820adc4b0012670cd35c025414029057004001,
  0x9a02125a0191550496700351dc02d0bf0110be00904901d1c7099a3c095a3b0919d608d9d50899d40851540811c507d16b0791d807505307135b0150bd00573e06584f06d6b700d00e1012ef0adc4b0012670cd35c025414029058004001,
  0x9a02125a0191550496700351dc02d0bf0110be00904901d1c7099a3c095a3b0919d608d9d50899d40851540811c507d16b0791d807505307135b0150bd00573e06584f06d6b700d00f1012f30adc4b0012670cd35c025414029059004001,
  0x9a02125a0191550496700351dc02d0bf0110be00904901d1c7099a3c095a3b0919d608d9d50899d40851540811c507d16b0791d807505307135b0150bd00573e06584f06d6b700d0101012f50adc4b0012670cd35c02541402905a004001,
  0x9a02125a0191550496700351dc02d0bf0110be00904901d1c7099a3c095a3b0919d608d9d50899d40851540811c507d16b0791d807505307135b0150bd00573e06584f06d6b700d0111012ca0adc4b0012670cd35c02541402905b004001,
  0x9a02125a0191550496700351dc02d0bf0110be00904901d1c7099a3c095a3b0919d608d9d50899d40851540811c507d16b0791d807505307135b0150bd00573e06584f06d6b700d0121012b90adc4b0012670cd35c02541402905c004001,
  0x9a02125a0191550496700351dc02d0bf0110be00904901d1c7099a3c095a3b0919d608d9d50899d40851540811c507d16b0791d807505307135b0150bd00573e06584f06d6b700d0131012f90adc4b0012670cd35c02541402905d004001,
  0x9a02125a0191550496700351dc02d0bf0110be00904901d1c7099a3c095a3b0919d608d9d50899d40851540811c507d16b0791d807505307135b0150bd00573e06584f06d6b700d0141012840adc4b0012670cd35c02541402905e004001,
  0x9a02125a0191550496700351dc02d0bf0110be00904901d1c7099a3c095a3b0919d608d9d50899d40851540811c507d16b0791d807505307135b0150bd00573e06584f06d6b700d0151012850adc4b0012670cd35c02541402905f004001,
  0x9a02125a0191550496700351dc02d0bf0110be00904901d1c7099a3c095a3b0919d608d9d50899d40851540811c507d16b0791d807505307135b0150bd00573e06584f06d6b700d0171012bb0adc4b0012670cd35c025414029060004001,
  0x9a02125a0191550496700351dc02d0bf0110be00904901d1c7099a3c095a3b0919d608d9d50899d40851540811c507d16b0791d807505307135b0150bd00573e06584f06d6b700d018101a000adc4b0012670cd35c025414029061004001,
  0x9a02125a0191550496700351dc02d0bf0110be00904901d1c7099a3c095a3b0919d608d9d50899d40851540811c507d16b0791d807505307135b0150bd00573e06584f06d6b700d01b101a020adc4b0012670cd35c025414029062004001,
  0x9a02125a0191550496700351dc02d0bf0110be00904901d1c7099a3c095a3b0919d608d9d50899d40851540811c507d16b0791d807505307135b0150bd00573e06584f06d6b700d01c101a040adc4b0012670cd35c025414029063004001,
  0x9a02125a0191550496700351dc02d0bf0110be00904901d1c7099a3c095a3b0919d608d9d50899d40851540811c507d16b0791d807505307135b0150bd00573e06584f06d6b700d01e1012880adc4b0012670cd35c025414029064004001,
  0x9a02125a0191550496700351dc02d0bf0110be00904901d1c7099a3c095a3b0919d608d9d50899d40851540811c507d16b0791d807505307135b0150bd00573e06584f06d6b700d020101a060adc4b0012670cd35c025414029065004001,
  0x9a02125a0191550496700351dc02d0bf0110be00904901d1c7099a3c095a3b0919d608d9d50899d40851540811c507d16b0791d807505307135b0150bd00573e06584f06d6b700d021101a080adc4b0012670cd35c025414029066004001,
  0x9a02125a0191550496700351dc02d0bf0110be00904901d1c7099a3c095a3b0919d608d9d50899d40851540811c507d16b0791d807505307135b0150bd00573e06584f06d6b700d022101a0b0adc4b0012670cd35c025414029067004001,
  0x9a02125a0191550496700351dc02d0bf0110be00904901d1c7099a3c095a3b0919d608d9d50899d40851540811c507d16b0791d807505307135b0150bd00573e06584f06d6b700d0231012610adc4b0012670cd35c025414029068004001,
  0x9a02125a0191550496700351dc02d0bf0110be00904901d1c7099a3c095a3b0919d608d9d50899d40851540811c507d16b0791d807505307135b0150bd00573e06584f06d6b700d0241012be0adc4b0012670cd35c025414029069004001,
  0x9a02125a0191550496700351dc02d0bf0110be00904901d1c7099a3c095a3b0919d608d9d50899d40851540811c507d16b0791d807505307135b0150bd00573e06584f06d6b700d0251013130adc4b0012670cd35c02541402906a004001,
  0x9a02125a0191550496700351dc02d0bf0110be00904901d1c7099a3c095a3b0919d608d9d50899d40851540811c507d16b0791d807505307135b0150bd00573e06584f06d6b700d0261013140adc4b0012670cd35c02541402906b004001,
  0x9a02125a0191550496700351dc02d0bf0110be00904901d1c7099a3c095a3b0919d608d9d50899d40851540811c507d16b0791d807505307135b0150bd00573e06584f06d6b700d0271013190adc4b0012670cd35c02541402906c004001,
  0x9a02125a0191550496700351dc02d0bf0110be00904901d1c7099a3c095a3b0919d608d9d50899d40851540811c507d16b0791d807505307135b0150bd00573e06584f06d6b700d02810131e0adc4b0012670cd35c02541402906d004001,
  0x9a02125a0191550496700351dc02d0bf0110be00904901d1c7099a3c095a3b0919d608d9d50899d40851540811c507d16b0791d807505307135b0150bd00573e06584f06d6b700d0291013200adc4b0012670cd35c02541402906e004001,
  0x9a02125a0191550496700351dc02d0bf0110be00904901d1c7099a3c095a3b0919d608d9d50899d40851540811c507d16b0791d807505307135b0150bd00573e06584f06d6b700d02a1013210adc4b0012670cd35c02541402906f004001,
  0x9a02125a0191550496700351dc02d0bf0110be00904901d1c7099a3c095a3b0919d608d9d50899d40851540811c507d16b0791d807505307135b0150bd00573e06584f06d6b700d02b1013270adc4b0012670cd35c025414029070004001,
  0x9a02125a0191550496700351dc02d0bf0110be00904901d1c7099a3c095a3b0919d608d9d50899d40851540811c507d16b0791d807505307135b0150bd00573e06584f06d6b700d02c1012c20adc4b0012670cd35c025414029071004001,
  0x9a02125a0191550496700351dc02d0bf0110be00904901d1c7099a3c095a3b0919d608d9d50899d40851540811c507d16b0791d807505307135b0150bd00573e06584f06d6b700d02d10128e0adc4b0012670cd35c025414029072004001,
  0x9a02125a0191550496700351dc02d0bf0110be00904901d1c7099a3c095a3b0919d608d9d50899d40851540811c507d16b0791d807505307135b0150bd00573e06584f06d6b700d02e1013290adc4b0012670cd35c025414029073004001,
  0x9a02125a0191550496700351dc02d0bf0110be00904901d1c7099a3c095a3b0919d608d9d50899d40851540811c507d16b0791d807505307135b0150bd00573e06584f06d6b700d02f10132d0adc4b0012670cd35c025414029074004001]

/-- States 128 to 191. -/
def rows02 : List Nat := [
  0x9a02125a0191550496700351dc02d0bf0110be00904901d1c7099a3c095a3b0919d608d9d50899d40851540811c507d16b0791d807505307135b0150bd00573e06584f06d6b700d03010132f0adc4b0012670cd35c025414029075004001,
  0x9a02125a0191550496700351dc02d0bf0110be00904901d1c7099a3c095a3b0919d608d9d50899d40851540811c507d16b0791d807505307135b0150bd00573e06584f06d6b700d0311012cc0adc4b0012670cd35c025414029076004001,
  0x9a02125a0191550496700351dc02d0bf0110be00904901d1c7099a3c095a3b0919d608d9d50899d40851540811c507d16b0791d807505307135b0150bd00573e06584f06d6b700d0321012c40adc4b0012670cd35c025414029077004001,
  0x9a02125a0191550496700351dc02d0bf0110be00904901d1c7099a3c095a3b0919d608d9d50899d40851540811c507d16b0791d807505307135b0150bd00573e06584f06d6b700d0331013330adc4b0012670cd35c025414029078004001,
  0x9a02125a0191550496700351dc02d0bf0110be00904901d1c7099a3c095a3b0919d608d9d50899d40851540811c507d16b0791d807505307135b0150bd00573e06584f06d6b700d0341012900adc4b0012670cd35c025414029079004001,
  0x9a02125a0191550496700351dc02d0bf0110be00904901d1c7099a3c095a3b0919d608d9d50899d40851540811c507d16b0791d807505307135b0150bd00573e06584f06d6b700d0351012910adc4b0012670cd35c02541402907a004001,
  0x9a02125a0191550496700351dc02d0bf0110be00904901d1c7099a3c095a3b0919d608d9d50899d40851540811c507d16b0791d807505307135b0150bd00573e06584f06d6b700d0371012c60adc4b0012670cd35c02541402907b004001,
  0x9a02125a0191550496700351dc02d0bf0110be00904901d1c7099a3c095a3b0919d608d9d50899d40851540811c507d16b0791d807505307135b0150bd00573e06584f06d6b700d03b1012940adc4b0012670cd35c02541402907c004001,
  0x9a02125a0191550496700351dc02d0bf0110be00904901d1c7099a3c095a3b0919d608d9d50899d40851540811c507d16b0791d807505307135b0150bd00573e06584f06d6b700d03d1017330adc4b0012670cd35c02541402907d004001,
  0x9a02125a0191550496700351dc02d0bf0110be00904901d1c7099a3c095a3b0919d608d9d50899d40851540811c507d16b0791d807505307135b0150bd00573e06584f06d6b700d2800adc4b0012670cd35c02541402907e003001,
  0x9a02125a0191550496700351dc02d0bf0110be00904901d1c7099a3c095a3b0919d608d9d50899d40851540811c507d16b0791d807505307135b0150bd00573e06584f06d6b700d2810adc4b0012670cd35c02541402907e003001,
  0x9a02125a0191550496700351dc02d0bf0110be00904901d1c7099a3c095a3b0919d608d9d50899d40851540811c507d16b0791d807505307135b0150bd00573e06584f06d6b700d9260adc4b0012670cd35c02541402907e003001,
  0x9a02125a0191550496700351dc02d0bf0110be00904901d1c7099a3c095a3b0919d608d9d50899d40851540811c507d16b0791d807505307135b0150bd00573e06584f06d6b700d92f0adc4b0012670cd35c02541402907e003001,
  0x9a02125a0191550496700351dc02d0bf0110be00904901d1c7099a3c095a3b0919d608d9d50899d40851540811c507d16b0791d807505307135b0150bd00573e06584f06d6b700d29a0adc4b0012670cd35c02541402907e003001,
  0x9a02125a0191550496700351dc02d0bf0110be00904901d1c7099a3c095a3b0919d608d9d50899d40851540811c507d16b0791d807505307135b0150bd00573e06584f06d6b700d29d0adc4b0012670cd35c02541402907e003001,
  0x9a02125a0191550496700351dc02d0bf0110be00904901d1c7099a3c095a3b0919d608d9d50899d40851540811c507d16b0791d807505307135b0150bd00573e06584f06d6b700d2a00adc4b0012670cd35c02541402907e003001,
  0x9a02125a0191550496700351dc02d0bf0110be00904901d1c7099a3c095a3b0919d608d9d50899d40851540811c507d16b0791d807505307135b0150bd00573e06584f06d6b700d2a20adc4b0012670cd35c02541402907e003001,
  0x9a02125a0191550496700351dc02d0bf0110be00904901d1c7099a3c095a3b0919d608d9d50899d40851540811c507d16b0791d807505307135b0150bd00573e06584f06d6b700d2a50adc4b0012670cd35c02541402907e003001,
  0x9a02125a0191550496700351dc02d0bf0110be00904901d1c7099a3c095a3b0919d608d9d50899d40851540811c507d16b0791d807505307135b0150bd00573e06584f06d6b700d2a70adc4b0012670cd35c02541402907e003001,
  0x9a02125a0191550496700351dc02d0bf0110be00904901d1c7099a3c095a3b0919d608d9d50899d40851540811c507d16b0791d807505307135b0150bd00573e06584f06d6b700da230adc4b0012670cd35c02541402907e003001,
  0x9a02125a0191550496700351dc02d0bf0110be00904901d1c7099a3c095a3b0919d608d9d50899d40851540811c507d16b0791d807505307135b0150bd00573e06584f06d6b700da250adc4b0012670cd35c02541402907e003001,
  0x9a02125a0191550496700351dc02d0bf0110be00904901d1c7099a3c095a3b0919d608d9d50899d40851540811c507d16b0791d807505307135b0150bd00573e06584f06d6b700d2aa0adc4b0012670cd35c02541402907e003001,
  0x9a02125a0191550496700351dc02d0bf0110be00904901d1c7099a3c095a3b0919d608d9d50899d40851540811c507d16b0791d807505307135b0150bd00573e06584f06d6b700d2ac0adc4b0012670cd35c02541402907e003001,
  0x9a02125a0191550496700351dc02d0bf0110be00904901d1c7099a3c095a3b0919d608d9d50899d40851540811c507d16b0791d807505307135b0150bd00573e06584f06d6b700d2af0adc4b0012670cd35c02541402907e003001,
  0x9a02125a0191550496700351dc02d0bf0110be00904901d1c7099a3c095a3b0919d608d9d50899d40851540811c507d16b0791d807505307135b0150bd00573e06584f06d6b700d2b10adc4b0012670cd35c02541402907e003001,
  0x9a02125a0191550496700351dc02d0bf0110be00904901d1c7099a3c095a3b0919d608d9d50899d40851540811c507d16b0791d807505307135b0150bd00573e06584f06d6b700dc4b0012670cd35c02541402907e001001,
  0x9e0210bf01141601d6b700d1100093b401510f005b08b0703ab060a9c4b00135c02541503141409db07169b0832507f003002,
  0x9e0210bf01141601d6b700d1100093b401510f005b060a9c4b001b08b0714235c02541503141409db071b1b0832507f003002,
  0xaf0210ca01152701d6d200d1090093b0015108005c4b0013b502552603152409db09b0817ab09295080003004,
  0x9e0210bf01141601d6b700d1100093b401510f005b060a9c4b00135c02541503141409db0832907f003003,
  0x9e0210bf01141601d6b700d1100093b401510f005c4b00135c02541503141409db0832907f003005,
  0xaf0210ca01152701d6d200d1090093b0015108005c4b0013b502552603152409db09b0817ab091f9080003005,
  0xa90210d30114cb01d6da00d1390093b7015132005b08b0703ab060a9c4b0013bd0254ca0314c509db08399081005003,
  0xaf0210ca01152701d6d200d1090093b0015108005c4b0013b502552603152409db09b0817ab0939d080005005,
  0xa90210d30114cb01d6da00d1390093b7015132005b060a9c4b0013bd0254ca0314c509db0832d081005003,
  0xb80210c60111f315d50b01d6d000d1250093bc01511d005b060a9c4b0013b102550a03150209db082e5082006003,
  0xaf0210ca01152701d6d200d1090093b0015108005b060a9c4b0013b502552603152409db08331080001003,
  0xb10210d00114af01d6d800d1170093c2015138005b060a9c4b0013bb0254ae0314a309db08335083005003,
  0xa90210d30114cb01d6da00d1390093b7015132005b060a9c4b001b093a53bd0254ca0314c509db09b083a2081005003,
  0xb60210d601157b01d6dc00d11e0093ba015116005b060a9c4b0013bf02557a03157409db08339084006003,
  0xaf0210ca01152701d6d200d1090093b0015108005c4b0013b502552603152409db09b0817ab093a9080006005,
  0xa90210d30114cb01d6da00d1390093b7015132005c4b0013bd0254ca0314c509db0832d081005005,
  0xb60210d601157b01d6dc00db090a111e0093ba015116005b060a9c4b0013bf02557a03157409db09b0833e084006003,
  0xb80210c601150b01d6d000d1250093bc01511d005b060a9c4b001b08b071123b102550a03150209db08341082006003,
  0xaf0210ca01152701d6d200d1090093b0015108005c4b0013b502552603152409db09b0817ab091fd080001005,
  0xba0210d90115b401d6de00db090a11330093be015124005b060a9c4b0013c10255b30315b009db09b083ae085007003,
  0xb90210cd01154301d6d600d12c0093c001512b005b060a9c4b001b08b071163b802554203153c09db08341086007003,
  0xaf0210ca01152701d6d200d1090093b0015108005c4b0013b502552603152409db08331080001005,
  0xb80210c601150b01d6d000d1250093bc01511d005b060a9c4b0013b102550a03150209db082e5082006003,
  0xb10210d00114af01d6d800d1170093c2015138005c4b0013bb0254ae0314a309db08335083005005,
  0xb90210cd01154301d6d600d12c0093c001512b005b060a9c4b0013b802554203153c09db08345086007003,
  0xaf0210ca01152701d6d200d1090093b0015108005c4b0013b502552603152409db08179b07199080003004,
  0xaf0210ca01152701d6d200d1090093b0015108005c4b0013b502552603152409db09b0817ab093b1080007005,
  0xba0210d90115b401d6de00d1330093be015124005b060a9c4b0013c10255b30315b009db08349085007003,
  0xb60210d601157b01d6dc00d11e0093ba015116005c4b0013bf02557a03157409db08339084006005,
  0xb60210d60111f315d57b01d6dc00d11e0093ba015116005b060a9c4b0013bf02557a03157409db0833d084006003,
  0xb80210c601150b01d6d000d1250093bc01511d005c4b0013b102550a03150209db082e5082006003,
  0xb90210cd01154301d6d600d12c0093c001512b005c4b0013b802554203153c09db08345086007003,
  0xba0210d90115b401d6de00d1330093be015124005c4b0013c10255b30315b009db08349085007005,
  0xaf0210ca01152701d6d200d1090093b0015108005c4b0013b502552603152409db08179b0719d080001004,
  0xaf0210ca01152701d6d200d1090093b0015108005c4b0013b502552603152409db09b0817ab0919d080001004,
  0xab02148701915904967a03523602d0c60110c500948201d1dd01526c03d0c00056d000dc4b0013b1025481031502029087006001,
  0xae02149901915a04967d03524402d0cd01127005d0cc00948a01d2370150c70056d600dc4b0013b802548903153c029088007001,
  0xa50214440190f704967e03524702d4170690d001111700944301d1e0045240015a4a03910a0056d800dc4b0013bb0254420314a3029089005003]

/-- States 192 to 255. -/
def rows03 : List Nat := [
  0xab02148701915904967a03523602d0c60110c500948201d1dd01550503d0c00056d000dc4b0013b102548103150202908a006001,
  0x9a02125a0191550496700351dc02d0bf0110be00926801d35b0150bd0056b700dc4b00135c02526703141402908b001001,
  0x9a02125a0191550496700351dc02d0bf0110be00926801d35b0150bd0056b700dc4b00135c02526703141402908c001001,
  0x9a02125a0191550496700351dc02d0bf0110be00926801d35b0150bd0056b700dc4b00135c02526703141402908d001001,
  0xab02148701915904967a03523602d0c60110c500948201d1dd01565403d0c00056d000dc4b0013b102548103150202908e006001,
  0xae02149901915a04967d03524402d0cd01150905d0cc00948a01d2370150c70056d600dc4b0013b802548903153c02908f007001,
  0xa50214440190f704967e03524702d50c0690d001111700944301d1e0045240015a7b03910a0056d800dc4b0013bb0254420314a3029090005003,
  0xab02148701915904967a03523602d0c60110c500948201d1dd01553f03d0c00056d000dc4b0013b1025481031502029091006001,
  0xab02148701915904967a03523602d0c60110c500948201d1dd0154a703d0c00056d000dc4b0013b1025481031502029092006001,
  0xae02149901915a04967d03524402d0cd01165505d0cc00948a01d2370150c70056d600dc4b0013b802548903153c029093007001,
  0xa50214440190f704967e03524702d5280690d001111700944301d1e0045240015a9303910a0056d800dc4b0013bb0254420314a3029094005003,
  0xab02148701915904967a03523602d0c60110c500948201d1dd01566003d0c00056d000dc4b0013b1025481031502029095006001,
  0xae02149901915a04967d03524402d0cd01154105d0cc00948a01d2370150c70056d600dc4b0013b802548903153c029096007001,
  0xa50214440190f704967e03524702d5440690d001111700944301d1e0045240015aa603910a0056d800dc4b0013bb0254420314a3029097005003,
  0xab02148701915904967a03523602d0c60110c500948201d1dd0155d503d0c00056d000dc4b0013b102548103150202908e006001,
  0xae02149901915a04967d03524402d0cd0114ad05d0cc00948a01d2370150c70056d600dc4b0013b802548903153c029098007001,
  0xa50214440190f704967e03524702d4b00690d001111700944301d1e0045240015ab803910a0056d800dc4b0013bb0254420314a3029099005003,
  0xab02148701915904967a03523602d0c60110c500948201d1dd01566503d0c00056d000dc4b0013b102548103150202909a006001,
  0xae02149901915a04967d03524402d0cd01166105d0cc00948a01d2370150c70056d600dc4b0013b802548903153c02909b007001,
  0xa50214440190f704967e03524702d4cc0690d001111700944301d1e0045240015ac603910a0056d800dc4b0013bb0254420314a302909c005003,
  0xab02148701915904967a03523602d0c60110c500948201d1dd01563603d0c00056d000dc4b0013b102548103150202909d006001,
  0xae02149901915a04967d03524402d0cd0115d605d0cc00948a01d2370150c70056d600dc4b0013b802548903153c029093007001,
  0xa50214440190f704967e03524702d57c0690d001111700944301d1e0045240015ad303910a0056d800dc4b0013bb0254420314a302909e005003,
  0xab02148701915904967a03523602d0c60110c500948201d1dd01559e03d0c00056d000dc4b0013b102548103150202909f006001,
  0xae02149901915a04967d03524402d0cd01166605d0cc00948a01d2370150c70056d600dc4b0013b802548903153c0290a0007001,
  0xa50214440190f704967e03524702d5b50690d001111700944301d1e0045240015ae003910a0056d800dc4b0013bb0254420314a30290a1005003,
  0xab02148701915904967a03523602d0c60110c500948201d1dd01527d03d0c00056d000dc4b0013b1025481031502029087006001,
  0xae02149901915a04967d03524402d0cd01163705d0cc00948a01d2370150c70056d600dc4b0013b802548903153c0290a2007001,
  0xae02149901915a04967d03524402d0cd0115a005d0cc00948a01d2370150c70056d600dc4b0013b802548903153c0290a3007001,
  0xae02149901915a04967d03524402d0cd01127e05d0cc00948a01d2370150c70056d600dc4b0013b802548903153c029088007001,
  0xb302159d0190ca0110dc00957101d35b0150d70056d200dc4b0013b5025570031524029b0a2990a4003006,
  0xb302159d0190ca0110dc00957101d35b0150d70056d200dc4b0013b5025570031524029b0b2990a4003006,
  0xa002145b0190f704967f03524902d0d30110cf00943f01d3b70150c80056da00dc4b0013bd02543e0314c50290a5001001,
  0xa002145b0190f704967f03524902d0d30110cf00943f01d3b70150c80056da00dc4b0013bd02543e0314c50290a6001001,
  0xb00214a201915904967a03523602d0c60111250094a101d1dd01550003d1110056d000dc4b0013b10254a00315020290a7006001,
  0xbb0215d40190ca0110d50095d201d3c30150ce0056d200dc4b0013b50255d1031524029b0a1690a8001006,
  0x9d02142f0196700351dc02d0bf0111100093e201da780453b201510f0056b700dc4b00135c0253e10314140290a9001003,
  0xa302142101967a03523602d0c601112500942001d2380451dd015a5e03941e03d1110056d000dc4b0013b102541f0315020290aa006003,
  0xb502149c01968103524c02d0d901113300957801da900453b60151240056de00dc4b0013c10255770315b00290ab001003,
  0xa402148301967c03523f02d0ca01110900948c01da4704535d0151080056d200dc4b0013b502548b0315240290ac001003,
  0x9d02142f0196700351dc02d0bf0111100093e201da780453b201510f0056b700dc4b00135c0253e10314140290ad001003,
  0xa402148301967c03523f02d0ca01110900948c01da4704535d0151080056d200dc4b0013b502548b0315240290ae001003,
  0xb702151701968003524b02d0d601111e00951601d238045245015a9e03952f03d11f0056dc00dc4b0013bf0255150315740290af006003,
  0xbb0215d40190ca0110d50095d201d3c30150ce0056d200dc4b0013b50255d1031524029b0b1690a8001006,
  0xa402148301967c03523f02d0ca01110900948c01da4704535d0151080056d200dc4b0013b502548b0315240290b0001003,
  0xa402148301967c03523f02d0ca01110900948c01da4704535d0151080056d200dc4b0013b502548b0315240290b1001003,
  0xb502149c01968103524c02d0d901113300957801da900453b60151240056de00dc4b0013c10255770315b00290b2001003,
  0xa402148301967c03523f02d0ca01110900948c01da4704535d0151080056d200dc4b0013b502548b0315240290b3001003,
  0xa402148301967c03523f02d0ca01110900948c01da4704535d0151080056d200dc4b0013b502548b0315240290b4001003,
  0x9d02142f0196700351dc02d0bf0111100093e201da780453b201510f0056b700dc4b00135c0253e10314140290b5001003,
  0x9d02142f0196700351dc02d0bf0111100093e201da780453b201510f0056b700dc4b00135c0253e10314140290b6001003,
  0xa702145d01968003524b02d0d601111e0094ab01daa30453b90151160056dc00dc4b0013bf0254aa0315740290b7001003,
  0xa702145d01968003524b02d0d601111e0094ab01daa30453b90151160056dc00dc4b0013bf0254aa0315740290b8001003,
  0xb502149c01968103524c02d0d901113300957801da900453b60151240056de00dc4b0013c10255770315b00290b9001003,
  0xb502149c01968103524c02d0d901113300957801da900453b60151240056de00dc4b0013c10255770315b00290ba001003,
  0xa202147d01967f03524902d0d301113900947c01d3b70151320052420656da00dc4b0013bd02547b031b0c1654c50290bb005001,
  0xa702145d01968003524b02d0d601111e0094ab01daa30453b90151160056dc00dc4b0013bf0254aa0315740290bc001003,
  0xa702145d01968003524b02d0d601111e0094ab01daa30453b90151160056dc00dc4b0013bf0254aa0315740290bd001003,
  0xa302142101967a03523602d0c601112500942001d2380451dd015a8703951403d1110056d000dc4b0013b102541f0315020290be006003,
  0xa302142101967a03523602d0c601112500942001d2380451dd015a9e03952f03d1110056d000dc4b0013b102541f0315020290bf006003,
  0xa302142101967a03523602d0c601112500942001d2380451dd015ab103954f03d1110056d000dc4b0013b102541f0315020290c0006003,
  0xa302142101967a03523602d0c601112500942001d2380451dd015ac20394b803d1110056d000dc4b0013b102541f0315020290c1006003,
  0xa302142101967a03523602d0c601112500942001d2380451dd015acf0394d303d1110056d000dc4b0013b102541f0315020290c2006003,
  0xa302142101967a03523602d0c601112500942001d2380451dd015adc03958303d1110056d000dc4b0013b102541f0315020290c3006003]

/-- States 256 to 319. -/
def rows04 : List Nat := [
  0xa302142101967a03523602d0c601112500942001d2380451dd015ae90395bc03d1110056d000dc4b0013b102541f0315020290c4006003,
  0xb502149c01968103524c02d0d901113300957801da900453b60151240056de00dc4b0013c10255770315b00290c5001003,
  0xb502149c01968103524c02d0d901113300957801da900453b60151240056de00dc4b0013c10255770315b00290c6001003,
  0xb502149c01968103524c02d0d901113300957801da900453b60151240056de00dc4b0013c10255770315b00290c7001003,
  0xa402148301967c03523f02d0ca01110900948c01da4704535d0151080056d200dc4b0013b502548b0315240290c8001003,
  0xa402148301967c03523f02d0ca01110900948c01da4704535d0151080056d200dc4b0013b502548b0315240290c9001003,
  0xa402148301967c03523f02d0ca01110900948c01da4704535d0151080056d200dc4b0013b502548b0315240290ca001003,
  0xa402148301967c03523f02d0ca01110900948c01da4704535d0151080056d200dc4b0013b502548b0315240290cb001003,
  0xb00214a201915904967a03523602d0c60111250094a101d1dd01550003d1110056d000dc4b0013b10254a00315020290cc006001,
  0xb20214c901915a04967d03524402d0cd01150105d12c0094c801d2370151180056d600dc4b0013b80254c703153c0290cd007001,
  0xb00214a201915904967a03523602d0c60111250094a101d1dd01549e03d1110056d000dc4b0013b10254a00315020290ce006001,
  0xb702151701968003524b02d0d601111e00951601d23804524501542a03d11f0056dc00dc4b0013bf0255150315740290cf006003,
  0xb702151701968003524b02d0d601111e00951601d23804524501542b03d11f0056dc00dc4b0013bf0255150315740290cf006003,
  0xb702151701968003524b02d0d601111e00951601d23804524501542c03d11f0056dc00dc4b0013bf0255150315740290cf006003,
  0xb702151701968003524b02d0d601111e00951601d23804524501542d03d11f0056dc00dc4b0013bf0255150315740290cf006003,
  0xb00214a201915904967a03523602d0c60111250094a101d1dd01543203d1110056d000dc4b0013b10254a00315020290d0006001,
  0xb20214c901915a04967d03524402d0cd01143305d12c0094c801d2370151180056d600dc4b0013b80254c703153c0290d1007001,
  0xb00214a201915904967a03523602d0c60111250094a101d1dd01556403d1110056d000dc4b0013b10254a00315020290d2006001,
  0xb702151701968003524b02d0d601111e00951601d23804524501552003d11f0056dc00dc4b0013bf0255150315740290cf006003,
  0xb702151701968003524b02d0d601111e00951601d23804524501552103d11f0056dc00dc4b0013bf0255150315740290cf006003,
  0xb702151701968003524b02d0d601111e00951601d23804524501552203d11f0056dc00dc4b0013bf0255150315740290cf006003,
  0xb702151701968003524b02d0d601111e00951601d23804524501552303d11f0056dc00dc4b0013bf0255150315740290cf006003,
  0xb00214a201915904967a03523602d0c60111250094a101d1dd01554803d1110056d000dc4b0013b10254a00315020290d3006001,
  0xb20214c901915a04967d03524402d0cd01149f05d12c0094c801d2370151180056d600dc4b0013b80254c703153c0290d4007001,
  0xb00214a201915904967a03523602d0c60111250094a101d1dd01557203d1110056d000dc4b0013b10254a00315020290d5006001,
  0xb702151701968003524b02d0d601111e00951601d23804524501553803d11f0056dc00dc4b0013bf0255150315740290cf006003,
  0xb702151701968003524b02d0d601111e00951601d23804524501553903d11f0056dc00dc4b0013bf0255150315740290cf006003,
  0xb702151701968003524b02d0d601111e00951601d23804524501553a03d11f0056dc00dc4b0013bf0255150315740290cf006003,
  0xb702151701968003524b02d0d601111e00951601d23804524501553b03d11f0056dc00dc4b0013bf0255150315740290cf006003,
  0xb00214a201915904967a03523602d0c60111250094a101d1dd01556403d1110056d000dc4b0013b10254a00315020290d6006001,
  0xb20214c901915a04967d03524402d0cd01154905d12c0094c801d2370151180056d600dc4b0013b80254c703153c0290d7007001,
  0xb00214a201915904967a03523602d0c60111250094a101d1dd01554803d1110056d000dc4b0013b10254a00315020290d8006001,
  0xb702151701968003524b02d0d601111e00951601d23804524501555903d11f0056dc00dc4b0013bf0255150315740290cf006003,
  0xb702151701968003524b02d0d601111e00951601d23804524501555a03d11f0056dc00dc4b0013bf0255150315740290cf006003,
  0xb702151701968003524b02d0d601111e00951601d23804524501555e03d11f0056dc00dc4b0013bf0255150315740290cf006003,
  0xb702151701968003524b02d0d601111e00951601d23804524501555f03d11f0056dc00dc4b0013bf0255150315740290cf006003,
  0xb00214a201915904967a03523602d0c60111250094a101d1dd0155ae03d1110056d000dc4b0013b10254a00315020290d9006001,
  0xb20214c901915a04967d03524402d0cd01156505d12c0094c801d2370151180056d600dc4b0013b80254c703153c0290da007001,
  0xb00214a201915904967a03523602d0c60111250094a101d1dd0155ae03d1110056d000dc4b0013b10254a00315020290db006001,
  0xb702151701968003524b02d0d601111e00951601d2380452450154c103d11f0056dc00dc4b0013bf0255150315740290cf006003,
  0xb702151701968003524b02d0d601111e00951601d2380452450154c203d11f0056dc00dc4b0013bf0255150315740290cf006003,
  0xb702151701968003524b02d0d601111e00951601d2380452450154c303d11f0056dc00dc4b0013bf0255150315740290cf006003,
  0xb702151701968003524b02d0d601111e00951601d2380452450154c403d11f0056dc00dc4b0013bf0255150315740290cf006003,
  0xb00214a201915904967a03523602d0c60111250094a101d1dd01557203d1110056d000dc4b0013b10254a00315020290dc006001,
  0xb20214c901915a04967d03524402d0cd01157305d12c0094c801d2370151180056d600dc4b0013b80254c703153c0290dd007001,
  0xb00214a201915904967a03523602d0c60111250094a101d1dd0154ef03d1110056d000dc4b0013b10254a00315020290de006001,
  0xb702151701968003524b02d0d601111e00951601d2380452450154dc03d11f0056dc00dc4b0013bf0255150315740290cf006003,
  0xb702151701968003524b02d0d601111e00951601d2380452450154dd03d11f0056dc00dc4b0013bf0255150315740290cf006003,
  0xb702151701968003524b02d0d601111e00951601d2380452450154de03d11f0056dc00dc4b0013bf0255150315740290cf006003,
  0xb702151701968003524b02d0d601111e00951601d2380452450154df03d11f0056dc00dc4b0013bf0255150315740290cf006003,
  0xb00214a201915904967a03523602d0c60111250094a101d1dd0154ef03d1110056d000dc4b0013b10254a00315020290df006001,
  0xb20214c901915a04967d03524402d0cd0115af05d12c0094c801d2370151180056d600dc4b0013b80254c703153c0290e0007001,
  0xb702151701968003524b02d0d601111e00951601d23804524501558c03d11f0056dc00dc4b0013bf0255150315740290cf006003,
  0xb702151701968003524b02d0d601111e00951601d23804524501558d03d11f0056dc00dc4b0013bf0255150315740290cf006003,
  0xb702151701968003524b02d0d601111e00951601d23804524501558e03d11f0056dc00dc4b0013bf0255150315740290cf006003,
  0xb702151701968003524b02d0d601111e00951601d23804524501558f03d11f0056dc00dc4b0013bf0255150315740290cf006003,
  0xb00214a201915904967a03523602d0c60111250094a101d1dd01549e03d1110056d000dc4b0013b10254a00315020290e1006001,
  0xb20214c901915a04967d03524402d0cd0114f005d12c0094c801d2370151180056d600dc4b0013b80254c703153c0290e2007001,
  0xb702151701968003524b02d0d601111e00951601d2380452450155c503d11f0056dc00dc4b0013bf0255150315740290cf006003,
  0xb702151701968003524b02d0d601111e00951601d2380452450155c603d11f0056dc00dc4b0013bf0255150315740290cf006003,
  0xb702151701968003524b02d0d601111e00951601d2380452450155c703d11f0056dc00dc4b0013bf0255150315740290cf006003,
  0xb702151701968003524b02d0d601111e00951601d2380452450155c803d11f0056dc00dc4b0013bf0255150315740290cf006003,
  0xa70214ac01915904968003524b02d0d601111e0094ab01d24501511f0056dc00db0d03dc4b0013bf0254aa0315740290e3006001,
  0xa70214ac01915904968003524b02d0d601111e0094ab01d24501511f0056dc00db0e03dc4b0013bf0254aa0315740290e3006001]

/-- States 320 to 383. -/
def rows05 : List Nat := [
  0xb702151701968003524b02d0d601111e00951601d23804524501511f0056dc00dc4b0013bf0255150315740290cf001003,
  0xb00214a201967903523602d0c60111250094a101d3bc01511d0056d000dc4b0013b10254a018db0f1b55020290e4006001,
  0xb00214a201967903523602d0c60111250094a101d3bc01511d0056d000dc4b0013b10254a018db101b55020290e4006001,
  0xb00214a201967903523602d0c60111250094a101d3bc01511d0056d000dc4b0013b10254a018db101b55020290e4006001,
  0xb00214a201967903523602d0c60111250094a101d3bc01511d0056d000dc4b0013b10254a018db111b55020290e4006001,
  0xb502157901915a04968103524c02d0d901113300957801d2480151260056de00db0d05dc4b0013c10255770315b00290e5007001,
  0xa202147d01967f03524902d0d301113900947c01d3b70151320056da00dc4b0013bd02547b031b121654c50290e6005001,
  0xb502157901915a04968103524c02d0d901113300957801d2480151260056de00db0e05dc4b0013c10255770315b00290e5007001,
  0xa202147d01967f03524902d0d301113900947c01d3b70151320056da00dc4b0013bd02547b031b131654c50290e6005001,
  0xb20214c901968203524402d0cd01112c0094c801d3c001512b0056d600dc4b0013b80254c718db0f1b953c0290e7007001,
  0xb20214c901968203524402d0cd01112c0094c801d3c001512b0056d600dc4b0013b80254c718db101b953c0290e7007001,
  0xb20214c901968203524402d0cd01112c0094c801d3c001512b0056d600dc4b0013b80254c718db101b953c0290e7007001,
  0xb20214c901968203524402d0cd01112c0094c801d3c001512b0056d600dc4b0013b80254c718db111b953c0290e7007001,
  0xa202147d0190f704967f03524902d0d301113900947c01d24a01512d0056da00db0d069c4b0013bd02547b0314c50290e8005001,
  0xa202147d0190f704967f03524902d0d301113900947c01d24a01512d0056da00db0e069c4b0013bd02547b0314c50290e8005001,
  0xa502144401968303524702d0d001111700944301d3c20151380056d800dc4b0013bb02544218db0f1bd4a30290e9005001,
  0xa502144401968303524702d0d001111700944301d3c20151380056d800dc4b0013bb02544218db101bd4a30290e9005001,
  0xa502144401968303524702d0d001111700944301d3c20151380056d800dc4b0013bb02544218db101bd4a30290e9005001,
  0xa502144401968303524702d0d001111700944301d3c20151380056d800dc4b0013bb02544218db111bd4a30290e9005001,
  0xaf0210ca01152701d6d200d1090093b0015108005c4b0013b5025526031b0716552409db08179080005005,
  0x9d0213e30196700351dc02d0bf0111100093e201d3b401510f0051df0656b700dc4b001b1410535c0253e10314140290ea003001,
  0x9d0213e30196700351dc02d0bf0111100093e201d3b401510f0051e20656b700dc4b001b0c10535c0253e10314140290eb003001,
  0xa402148d01967c03523f02d4240690ca01110900948c01d1e00453b00151080056d200dc4b0013b502548b0315240290ec005003,
  0xa402148d01967c03523f02d4290690ca01110900948c01d1e00453b00151080056d200dc4b0013b502548b0315240290ec005003,
  0xa70214ac01915904968003524b02d0d601111e0094ab01d24501511f0056dc00dc4b0013bf0254aa0315740290e3001001,
  0xa70214ac01968003524b02d0d601111e0094ab01d3ba0151160051ff0656dc00dc4b001b0c1113bf0254aa0315740290ed006001,
  0xb502157901968103524c02d0d901113300957801d3be01512400523d0656de00dc4b001b0c1153c10255770315b00290ee007001,
  0xa402148d01967c03523f02d51a0690ca01110900948c01d1e00453b00151080056d200dc4b0013b502548b0315240290ec005003,
  0xa402148d01967c03523f02d51f0690ca01110900948c01d1e00453b00151080056d200dc4b0013b502548b0315240290ec005003,
  0xb502157901915a04968103524c02d0d901113300957801d2480151260056de00dc4b0013c10255770315b00290e5001001,
  0xa402148d01967c03523f02d5320690ca01110900948c01d1e00453b00151080056d200dc4b0013b502548b0315240290ec005003,
  0xa402148d01967c03523f02d5370690ca01110900948c01d1e00453b00151080056d200dc4b0013b502548b0315240290ec005003,
  0xa202147d0190f704967f03524902d0d301113900947c01d24a01512d0056da00dc4b0013bd02547b0314c50290e8001001,
  0xa402148d01967c03523f02d5520690ca01110900948c01d1e00453b00151080056d200dc4b0013b502548b0315240290ec005003,
  0xa402148d01967c03523f02d5580690ca01110900948c01d1e00453b00151080056d200dc4b0013b502548b0315240290ec005003,
  0xa402148d01967c03523f02d4bb0690ca01110900948c01d1e00453b00151080056d200dc4b0013b502548b0315240290ec005003,
  0xa402148d01967c03523f02d4c00690ca01110900948c01d1e00453b00151080056d200dc4b0013b502548b0315240290ec005003,
  0xa402148d01967c03523f02d4d60690ca01110900948c01d1e00453b00151080056d200dc4b0013b502548b0315240290ec005003,
  0xa402148d01967c03523f02d4db0690ca01110900948c01d1e00453b00151080056d200dc4b0013b502548b0315240290ec005003,
  0xa402148d01967c03523f02d5860690ca01110900948c01d1e00453b00151080056d200dc4b0013b502548b0315240290ec005003,
  0xa402148d01967c03523f02d58b0690ca01110900948c01d1e00453b00151080056d200dc4b0013b502548b0315240290ec005003,
  0xa402148d01967c03523f02d5bf0690ca01110900948c01d1e00453b00151080056d200dc4b0013b502548b0315240290ec005003,
  0xa402148d01967c03523f02d5c40690ca01110900948c01d1e00453b00151080056d200dc4b0013b502548b0315240290ec005003,
  0x9d0213e30196700351dc02d0bf0111100093e201d3b401510f0056b700dc4b001b1510535c0253e10314140290ef003001,
  0x9d0213e30196700351dc02d0bf0111100093e201d3b401510f0056b700dc4b00135c025b1229d3e10314140290f0003001,
  0xb502157901968103524c02d0d901113300957801d19f04d3be0151240056de00dc4b001b161153c10255770315b00290f1007001,
  0x9d0213e30196700351dc02d0bf0111100093e201d3b401510f0056b700dc4b00135c025b1329d3e10314140290f0003001,
  0xb502157901968103524c02d0d901127305d13300957801d16d04d3be0151240056de00dc4b0013c10255770315b00290f2007001,
  0xb502157901968103524c02d0d901113300957801d1a204d3be0151240056de00dc4b001b171153c10255770315b00290f3007001,
  0xa402148d01967c03523f02d0ca01110900948c01d1e00453b00151080056d200dc4b0013b502548b0315240290ec001003,
  0xb502157901968103524c02d0d901127705d13300957801d16d04d3be0151240056de00dc4b0013c10255770315b00290f2007001,
  0xb502157901968103524c02d0d901127805d13300957801d16d04d3be0151240056de00dc4b0013c10255770315b00290f2007001,
  0xaf0210ca01152701d6d200d1090093b0015108005c4b001b181dd3b502552603152409db08179080006005,
  0xaf0210ca01152701d6d200d1090093b0015108005c4b001b091dd3b502552603152409db08179080006005,
  0xb502157901968103524c02d0d901149405d13300957801d16d04d3be0151240056de00dc4b0013c10255770315b00290f2007001,
  0xb502157901968103524c02d0d901149705d13300957801d16d04d3be0151240056de00dc4b0013c10255770315b00290f2007001,
  0xb502157901968103524c02d0d901149805d13300957801d16d04d3be0151240056de00dc4b0013c10255770315b00290f2007001,
  0xb502157901968103524c02d0d901145605d13300957801d16d04d3be0151240056de00dc4b0013c10255770315b00290f2007001,
  0xb502157901968103524c02d0d901145905d13300957801d16d04d3be0151240056de00dc4b0013c10255770315b00290f2007001,
  0xb502157901968103524c02d0d901145a05d13300957801d16d04d3be0151240056de00dc4b0013c10255770315b00290f2007001,
  0xb502157901968103524c02d0d901155b05d13300957801d16d04d3be0151240056de00dc4b0013c10255770315b00290f2007001,
  0xb502157901968103524c02d0d901156005d13300957801d16d04d3be0151240056de00dc4b0013c10255770315b00290f2007001,
  0xb502157901968103524c02d0d901156105d13300957801d16d04d3be0151240056de00dc4b0013c10255770315b00290f2007001,
  0xb502157901968103524c02d0d901156805d13300957801d16d04d3be0151240056de00dc4b0013c10255770315b00290f2007001]

/-- States 384 to 447. -/
def rows06 : List Nat := [
  0xb502157901968103524c02d0d901156b05d13300957801d16d04d3be0151240056de00dc4b0013c10255770315b00290f2007001,
  0xb502157901968103524c02d0d901156c05d13300957801d16d04d3be0151240056de00dc4b0013c10255770315b00290f2007001,
  0xb502157901968103524c02d0d901140b05d13300957801d16d04d3be0151240056de00dc4b0013c10255770315b00290f2007001,
  0xb502157901968103524c02d0d901140e05d13300957801d16d04d3be0151240056de00dc4b0013c10255770315b00290f2007001,
  0xb502157901968103524c02d0d901140f05d13300957801d16d04d3be0151240056de00dc4b0013c10255770315b00290f2007001,
  0xb502157901968103524c02d0d90114e305d13300957801d16d04d3be0151240056de00dc4b0013c10255770315b00290f2007001,
  0xb502157901968103524c02d0d90114e605d13300957801d16d04d3be0151240056de00dc4b0013c10255770315b00290f2007001,
  0xb502157901968103524c02d0d90114e705d13300957801d16d04d3be0151240056de00dc4b0013c10255770315b00290f2007001,
  0xb502157901968103524c02d0d901159205d13300957801d16d04d3be0151240056de00dc4b0013c10255770315b00290f2007001,
  0xb502157901968103524c02d0d901159505d13300957801d16d04d3be0151240056de00dc4b0013c10255770315b00290f2007001,
  0xb502157901968103524c02d0d901159605d13300957801d16d04d3be0151240056de00dc4b0013c10255770315b00290f2007001,
  0xb502157901968103524c02d0d90115cb05d13300957801d16d04d3be0151240056de00dc4b0013c10255770315b00290f2007001,
  0xb502157901968103524c02d0d90115ce05d13300957801d16d04d3be0151240056de00dc4b0013c10255770315b00290f2007001,
  0xb502157901968103524c02d0d90115cf05d13300957801d16d04d3be0151240056de00dc4b0013c10255770315b00290f2007001,
  0xb502157901968103524c02d0d90115d905d13300957801d16d04d3be0151240056de00dc4b0013c10255770315b00290f2007001,
  0xb502157901968103524c02d0d90115dc05d13300957801d16d04d3be0151240056de00dc4b0013c10255770315b00290f2007001,
  0xb502157901968103524c02d0d90115dd05d13300957801d16d04d3be0151240056de00dc4b0013c10255770315b00290f2007001,
  0xa402148d01967c03523f02d0ca01110900948c01d3b00150e20056d200dc4b0013b502548b0315240290f4001001,
  0xa402148d01967c03523f02d0ca01110900948c01d3b00150e20056d200dc4b0013b502548b0315240290f5001001,
  0xaf0210ca01152701d6d200d1090093b0015108005c4b001b072013b502552603152409db08179080001003,
  0x9d0213e30196700351dc02d0bf0111100093e201d3b401510f0056b700dc4b001b1910535c0253e10314140290f0003001,
  0xb502157901968103524c02d0d901113300957801d16d04d3be0151240056de00dc4b0013c10255770315b00290f6001001,
  0x9d0213e30196700351dc02d0bf0111100093e201d3b401510f0056b700dc4b001b1a10535c0253e10314140290f7003001,
  0x9d0213e30196700351dc02d0bf0111100093e201d3b401510f0056b700dc4b001b1b10535c0253e10314140290f7003001,
  0xa402148d01967c03523f02d0ca01110900948c01d3b00151080056d200db1c04dc4b0013b502548b0315240290f8001001,
  0xaf0210ca01152701d6d200d1090093b0015108005c4b001b181413b502552603152409db08179080001005,
  0x9d0213e30196700351dc02d0bf0111100093e201d3b401510f0056b700dc4b001b1d10535c0253e10314140290f0003001,
  0x9d0213e30196700351dc02d0bf0111100093e201d3b401510f0056b700dc4b001b1e10535c0253e10314140290f7003001,
  0x9d0213e30196700351dc02d0bf0111100093e201d3b401510f0056b700dc4b001b1f10535c0253e10314140290f7003001,
  0xa70214ac01968003524b02d0d601111e0094ab01d3ba015a6d03d1160056dc00dc4b0013bf0254aa0315740290f9006001,
  0xa402148d01967c03523f02d0ca01110900948c01d3b00151080056d200db2004dc4b0013b502548b0315240290f8001001,
  0xb502157901968103524c02d0d901113300957801d3be0151240056de00dc4b001b171153c10255770315b00290fa007001,
  0xb00214a201967903523602d0c60111250094a101d3bc01511d0056d000dc4b0013b10254a00315020290fb001001,
  0xa70214ac01968003524b02d0d601111e0094ab01d3ba015a6f03d1160056dc00dc4b0013bf0254aa0315740290f9006001,
  0xb502157901968103524c02d0d901113300957801d3be0151240056de00dc4b001b211153c10255770315b00290fc007001,
  0xb00214a201967903523602d0c60111250094a101d3bc01511d0056d000dc4b0013b10254a00315020290fd001001,
  0xb502157901968103524c02d0d901113300957801d3be0151240056de00dc4b001b221153c10255770315b00290fe007001,
  0xb502157901968103524c02d0d901113300957801d16d04d3be0151240056de00dc4b0013c10255770315b00290f2001001,
  0xb00214a201967903523602d0c60111250094a101d3bc01511d0056d000dc4b0013b10254a00315020290ff001001,
  0xb00214a201967903523602d0c60111250094a101d3bc01511d0056d000dc4b0013b10254a0031502029100001001,
  0xb00214a201967903523602d0c60111250094a101d3bc01511d0056d000dc4b0013b10254a00315020290e4001001,
  0xaf0210ca01152701d6d200d1090093b0015108005c4b001b071113b502552603152409db08179080006003,
  0xa70214ac01968003524b02d0d601111e0094ab01d3ba0151160056dc00dc4b001b121113bf0254aa031574029101006001,
  0xa70214ac01968003524b02d0d601111e0094ab01d3ba0151160056dc00dc4b001b131113bf0254aa031574029101006001,
  0xaf0210ca01152701d6d200d1090093b0015108005c4b001b091413b502552603152409db08179080001005,
  0xaf0210ca01152701d6d200d1090093b0015108005c4b001b071153b502552603152409db08179080007003,
  0xb502157901968103524c02d0d901113300957801d3be0151240056de00dc4b001b121153c10255770315b0029102007001,
  0xb502157901968103524c02d0d901113300957801d3be0151240056de00dc4b001b131153c10255770315b0029102007001,
  0xb20214c901968203524402d0cd01112c0094c801d3c001512b0056d600dc4b0013b80254c703153c029103001001,
  0xb20214c901968203524402d0cd01112c0094c801d3c001512b0056d600dc4b0013b80254c703153c029104001001,
  0xb20214c901968203524402d0cd01112c0094c801d3c001512b0056d600dc4b0013b80254c703153c029105001001,
  0xb20214c901968203524402d0cd01112c0094c801d3c001512b0056d600dc4b0013b80254c703153c029106001001,
  0xb20214c901968203524402d0cd01112c0094c801d3c001512b0056d600dc4b0013b80254c703153c0290e7001001,
  0xa502144401968303524702d0d001111700944301d3c20151380056d800dc4b0013bb0254420314a3029107001001,
  0xa502144401968303524702d0d001111700944301d3c20151380056d800dc4b0013bb0254420314a3029108001001,
  0xa502144401968303524702d0d001111700944301d3c20151380056d800dc4b0013bb0254420314a3029109001001,
  0xa502144401968303524702d0d001111700944301d3c20151380056d800dc4b0013bb0254420314a302910a001001,
  0xa502144401968303524702d0d001111700944301d3c20151380056d800dc4b0013bb0254420314a30290e9001001,
  0xb502157901968103524c02d0d901113300957801d16d04d3be0151240056de00dc4b0013c10255770315b002910b001001,
  0xb502157901968103524c02d0d901113300957801d16d04d3be0151240056de00dc4b0013c10255770315b002910c001001,
  0xb502157901968103524c02d0d901113300957801d16d04d3be0151240056de00dc4b0013c10255770315b002910d001001,
  0xb502157901968103524c02d0d901113300957801d16d04d3be0151240056de00dc4b0013c10255770315b002910e001001,
  0xb502157901968103524c02d0d901113300957801d16d04d3be0151240056de00dc4b0013c10255770315b002910f001001,
  0xb502157901968103524c02d0d901113300957801d16d04d3be0151240056de00dc4b0013c10255770315b0029110001001]

/-- States 448 to 511. -/
def rows07 : List Nat := [
  0xb502157901968103524c02d0d901113300957801d16d04d3be0151240056de00dc4b0013c10255770315b0029111001001,
  0xb502157901968103524c02d0d901113300957801d16d04d3be0151240056de00dc4b0013c10255770315b0029112001001,
  0xb502157901968103524c02d0d901113300957801d16d04d3be0151240056de00dc4b0013c10255770315b0029113001001,
  0xa402148d01967c03523f02d0ca01110900948c01d3b00150e20056d200dc4b0013b502548b031524029114001001,
  0xa402148d01967c03523f02d0ca01110900948c01d3b00150e20056d200dc4b0013b502548b031524029115001001,
  0x9d0213e30196700351dc02d0bf0111100093e201d3b401510f0056b700dc4b00135c0253e1031414029116001001,
  0xa440c11920d12d00a1b08b0703ab060a9c4b001b07169b08181000008007,
  0x8d80196d400db08b0703ab060a9c4b001b07169b08181117003007,
  0xa402148d01967c03523f02d0ca01110900948c01d8f404d3b00151080056d200dc4b0013b502548b031524029118001001,
  0xa402148d01967c03523f02d0ca01110900948c01d3b00151080056d200dc4b0013b502548b031524029119001001,
  0xa402148d01967c03523f02d0ca01110900948c01d90504d3b00151080056d200dc4b0013b502548b031524029118001001,
  0xa402148d01967c03523f02d0ca01110900948c01d3b00151080056d200dc4b0013b502548b03152402911a001001,
  0xa402148d01967c03523f02d0ca01110900948c01d06204d3b00151080056d200dc4b0013b502548b03152402911b001001,
  0xa402148d01967c03523f02d0ca01110900948c01d3b00151080056d200dc4b0013b502548b0315240290f8001001,
  0x8d80196d400db060a9c4b001b08b07142b071b1b08181117003007,
  0xa402148d01967c03523f02d0ca01110900948c01d3b00151080056d200db1204dc4b0013b502548b03152402911c001001,
  0xa402148d01967c03523f02d0ca01110900948c01d3b00151080056d200db1304dc4b0013b502548b03152402911c001001,
  0xa402148d01967c03523f02d0ca01110900948c01d93404d3b00151080056d200dc4b0013b502548b031524029118001001,
  0xa70214ac01968003524b02d0d601111e0094ab01d3ba0151160056dc00dc4b0013bf0254aa0315740290f9001001,
  0xa402148d01967c03523f02d0ca01110900948c01d95e04d3b00151080056d200dc4b0013b502548b031524029118001001,
  0xa402148d01967c03523f02d0ca01110900948c01d07d04d3b00151080056d200dc4b0013b502548b03152402911d001001,
  0xa402148d01967c03523f02d0ca01110900948c01d3b00151080056d200dc4b0013b502548b03152402911e001001,
  0xa402148d01967c03523f02d0ca01110900948c01d3b00151080056d200dc4b0013b502548b03152402911f001001,
  0xafd0c11c40d134a0a1b08b0703ab060a9c4b001b07169b08181000008007,
  0x9d0213e30196700351dc02d0bf0111100093e201d3b401510f0056b700dc4b00135c0253e1031414029120001001,
  0xa402148d01967c03523f02d0ca01110900948c01d3b00151080056d200dc4b0013b502548b031524029121001001,
  0xa402148d01967c03523f02d0ca01110900948c01d3b00151080056d200dc4b0013b502548b031524029122001001,
  0x9d0213e30196700351dc02d0bf0111100093e201d3b401510f0056b700dc4b00135c0253e1031414029123001001,
  0x9d0213e30196700351dc02d0bf0111100093e201d3b401510f0056b700dc4b00135c0253e1031414029124001001,
  0xaa02148601968003524b02d0d601111e00948501d3ba0151160056dc00dc4b0013bf025484031574029125001001,
  0x9d0213e30196700351dc02d0bf0111100093e201d3b401510f0056b700dc4b00135c0253e1031414029126001001,
  0x9d0213e30196700351dc02d0bf0111100093e201d3b401510f0056b700dc4b00135c0253e1031414029127001001,
  0xa202147d01967f03524902d0d301113900947c01d3b70151320056da00dc4b0013bd02547b0314c5029128001001,
  0x9d0213e30196700351dc02d0bf0111100093e201d3b401510f0056b700dc4b00135c0253e1031414029129001001,
  0x9d0213e30196700351dc02d0bf0111100093e201d3b401510f0056b700dc4b00135c0253e103141402912a001001,
  0x9d0213e30196700351dc02d0bf0111100093e201d3b401510f0056b700dc4b00135c0253e103141402912b001001,
  0x9d0213e30196700351dc02d0bf0111100093e201d3b401510f0056b700dc4b00135c0253e103141402912c001001,
  0xa402148d01967c03523f02d0ca01110900948c01d3b00151080056d200dc4b0013b502548b03152402912d001001,
  0x9d0213e30196700351dc02d0bf0111100093e201d3b401510f0056b700dc4b00135c0253e103141402912e001001,
  0x9d0213e30196700351dc02d0bf0111100093e201d3b401510f0056b700dc4b00135c0253e103141402912f001001,
  0x9d0213e30196700351dc02d0bf0111100093e201d3b401510f0056b700dc4b00135c0253e10314140290f0001001,
  0x9d0213e30196700351dc02d0bf0111100093e201d3b401510f0056b700dc4b00135c0253e1031414029130001001,
  0x9d0213e30196700351dc02d0bf0111100093e201d3b401510f0056b700dc4b00135c0253e1031414029131001001,
  0xa502144401967e03524702d0d001111700944301d3c20151380056d800dc4b0013bb0254420314a3029132001001,
  0xa402148d01967c03523f02d0ca01110900948c01d3b00151080056d200dc4b0013b502548b031524029133001001,
  0x9d0213e30196700351dc02d0bf0111100093e201d3b401510f0056b700dc4b00135c0253e1031414029134001001,
  0xb00214a201967a03523602d0c60111250094a101d3bc01511d0056d000dc4b0013b10254a0031502029135001001,
  0xa402148d01967c03523f02d0ca01110900948c01d3b00151080056d200dc4b0013b502548b031524029136001001,
  0xa621851cc1c1a6b131c4b001b230f5137001008,
  0xa621851ef1c5a6b131c4b001b230f5138001009,
  0x9d0213e30196700351dc02d0bf0111100093e201d3b401510f0056b700dc4b00135c0253e1031414029139001001,
  0xa70214ac01968003524b02d0d601111e0094ab01d3ba0151160056dc00dc4b0013bf0254aa03157402913a001001,
  0xa70214ac01968003524b02d0d601111e0094ab01d3ba0151160056dc00dc4b0013bf0254aa03157402913b001001,
  0x9d0213e30196700351dc02d0bf0111100093e201d3b401510f0056b700dc4b00135c0253e10314140290f7001001,
  0xa402148d01967c03523f02d0ca01110900948c01d3b00151080056d200dc4b0013b502548b03152402913c001001,
  0xa402148d01967c03523f02d0ca01110900948c01d3b00151080056d200dc4b0013b502548b031524029118001001,
  0xa621851cc1c1a6b131c4b001b240f513d001008,
  0xa621851ef1c5a6b131c4b001b240f513e001009,
  0xa402148d01967c03523f02d0ca01110900948c01d3b00151080056d200dc4b0013b502548b03152402913f001001,
  0xa402148d01967c03523f02d0ca01110900948c01d3b00151080056d200dc4b0013b502548b031524029140001001,
  0xa402148d01967c03523f02d0ca01110900948c01d3b00151080056d200dc4b0013b502548b031524029141001001,
  0xa402148d01967c03523f02d0ca01110900948c01d3b00151080056d200dc4b0013b502548b031524029142001001,
  0xb00214a201967a03523602d0c60111250094a101d3bc01511d0056d000dc4b0013b10254a0031502029143001001,
  0xa70214ac01968003524b02d0d601111e0094ab01d3ba0151160056dc00dc4b0013bf0254aa031574029144001001]

/-- States 512 to 575. -/
def rows08 : List Nat := [
  0xb00214a201967a03523602d0c60111250094a101d3bc01511d0056d000dc4b0013b10254a0031502029145001001,
  0xb00214a201967a03523602d0c60111250094a101d3bc01511d0056d000dc4b0013b10254a0031502029146001001,
  0xb00214a201967a03523602d0c60111250094a101d3bc01511d0056d000dc4b0013b10254a0031502029147001001,
  0xb00214a201967a03523602d0c60111250094a101d3bc01511d0056d000dc4b0013b10254a0031502029148001001,
  0xa202147d01967f03524902d0d301113900947c01d3b70151320056da00dc4b0013bd02547b0314c50290e6001001,
  0xb00214a201967a03523602d0c60111250094a101d3bc01511d0056d000dc4b0013b10254a0031502029149001001,
  0xaf11851d41c1af4131c4b001b230f914a002008,
  0xaf11852561c5af4131c4b001b230f914b002009,
  0xb00214a201967a03523602d0c60111250094a101d3bc01511d0056d000dc4b0013b10254a003150202914c001001,
  0xaf11851d41c1af4131c4b001b240f914d002008,
  0xaf11852561c5af4131c4b001b240f914e002009,
  0xa402148d01967c03523f02d0ca01110900948c01d3b00151080056d200dc4b0013b502548b03152402914f001001,
  0xa402148d01967c03523f02d0ca01110900948c01d3b00151080056d200dc4b0013b502548b031524029150001001,
  0xa402148d01967c03523f02d0ca01110900948c01d3b00151080056d200dc4b0013b502548b031524029151001001,
  0xa402148d01967c03523f02d0ca01110900948c01d3b00151080056d200dc4b0013b502548b031524029152001001,
  0xa402148d01967c03523f02d0ca01110900948c01d3b00151080056d200dc4b0013b502548b031524029153001001,
  0xa402148d01967c03523f02d0ca01110900948c01d3b00151080056d200dc4b0013b502548b03152402911c001001,
  0xa402148d01967c03523f02d0ca01110900948c01d3b00151080056d200dc4b0013b502548b031524029154001001,
  0xa402148d01967c03523f02d0ca01110900948c01d3b00151080056d200dc4b0013b502548b031524029155001001,
  0xb20214c901967d03524402d0cd01112c0094c801d3c001512b0056d600dc4b0013b80254c703153c029156001001,
  0xb20214c901967d03524402d0cd01112c0094c801d3c001512b0056d600dc4b0013b80254c703153c029157001001,
  0xb20214c901967d03524402d0cd01112c0094c801d3c001512b0056d600dc4b0013b80254c703153c029158001001,
  0xb20214c901967d03524402d0cd01112c0094c801d3c001512b0056d600dc4b0013b80254c703153c029159001001,
  0xb20214c901967d03524402d0cd01112c0094c801d3c001512b0056d600dc4b0013b80254c703153c02915a001001,
  0xb20214c901967d03524402d0cd01112c0094c801d3c001512b0056d600dc4b0013b80254c703153c02915b001001,
  0xb20214c901967d03524402d0cd01112c0094c801d3c001512b0056d600dc4b0013b80254c703153c02915c001001,
  0xa502144401967e03524702d0d001111700944301d3c20151380056d800dc4b0013bb0254420314a302915d001001,
  0xa502144401967e03524702d0d001111700944301d3c20151380056d800dc4b0013bb0254420314a302915e001001,
  0xa502144401967e03524702d0d001111700944301d3c20151380056d800dc4b0013bb0254420314a302915f001001,
  0xa502144401967e03524702d0d001111700944301d3c20151380056d800dc4b0013bb0254420314a3029160001001,
  0xa502144401967e03524702d0d001111700944301d3c20151380056d800dc4b0013bb0254420314a3029161001001,
  0xa502144401967e03524702d0d001111700944301d3c20151380056d800dc4b0013bb0254420314a3029162001001,
  0xa502144401967e03524702d0d001111700944301d3c20151380056d800dc4b0013bb0254420314a3029163001001,
  0xa202147d01967f03524902d0d301113900947c01d3b70151320056da00dc4b0013bd02547b0314c5029164001001,
  0xa202147d01967f03524902d0d301113900947c01d3b70151320056da00dc4b0013bd02547b0314c5029165001001,
  0xa202147d01967f03524902d0d301113900947c01d3b70151320056da00dc4b0013bd02547b0314c5029166001001,
  0xa202147d01967f03524902d0d301113900947c01d3b70151320056da00dc4b0013bd02547b0314c5029167001001,
  0xa202147d01967f03524902d0d301113900947c01d3b70151320056da00dc4b0013bd02547b0314c5029168001001,
  0xa202147d01967f03524902d0d301113900947c01d3b70151320056da00dc4b0013bd02547b0314c5029169001001,
  0xa202147d01967f03524902d0d301113900947c01d3b70151320056da00dc4b0013bd02547b0314c502916a001001,
  0xa70214ac01968003524b02d0d601111e0094ab01d3ba0151160056dc00dc4b0013bf0254aa03157402916b001001,
  0xa70214ac01968003524b02d0d601111e0094ab01d3ba0151160056dc00dc4b0013bf0254aa03157402916c001001,
  0xa70214ac01968003524b02d0d601111e0094ab01d3ba0151160056dc00dc4b0013bf0254aa03157402916d001001,
  0xa70214ac01968003524b02d0d601111e0094ab01d3ba0151160056dc00dc4b0013bf0254aa03157402916e001001,
  0xa70214ac01968003524b02d0d601111e0094ab01d3ba0151160056dc00dc4b0013bf0254aa03157402916f001001,
  0xa70214ac01968003524b02d0d601111e0094ab01d3ba0151160056dc00dc4b0013bf0254aa031574029170001001,
  0xa70214ac01968003524b02d0d601111e0094ab01d3ba0151160056dc00dc4b0013bf0254aa031574029171001001,
  0xb502157901968103524c02d0d901113300957801d3be0151240056de00dc4b0013c10255770315b0029172001001,
  0xb502157901968103524c02d0d901113300957801d3be0151240056de00dc4b0013c10255770315b0029173001001,
  0xb502157901968103524c02d0d901113300957801d3be0151240056de00dc4b0013c10255770315b0029174001001,
  0xb502157901968103524c02d0d901113300957801d3be0151240056de00dc4b0013c10255770315b0029175001001,
  0xb502157901968103524c02d0d901113300957801d3be0151240056de00dc4b0013c10255770315b0029176001001,
  0xb502157901968103524c02d0d901113300957801d3be0151240056de00dc4b0013c10255770315b0029177001001,
  0xb502157901968103524c02d0d901113300957801d3be0151240056de00dc4b0013c10255770315b0029178001001,
  0xb00214a201967a03523602d0c60111250094a101d3bc01511d0056d000dc4b0013b10254a0031502029179001001,
  0xad02149101968103524c02d0d901113300949001d3be0151240056de00dc4b0013c102548f0315b002917a001001,
  0xa70214ac01968003524b02d0d601111e0094ab01d3ba0151160056dc00dc4b0013bf0254aa03157402917b001001,
  0xa202147d01967f03524902d0d301113900947c01d3b70151320056da00dc4b0013bd02547b0314c502917c001001,
  0xa70214ac01968003524b02d0d601111e0094ab01d3ba0151160056dc00dc4b0013bf0254aa03157402917d001001,
  0xb20214c901967d03524402d0cd01112c0094c801d3c001512b0056d600dc4b0013b80254c703153c02917e001001,
  0xa70214ac01968003524b02d0d601111e0094ab01d3ba0151160056dc00dc4b0013bf0254aa03157402917f001001,
  0xb502157901968103524c02d0d901113300957801d3be0151240056de00dc4b0013c10255770315b0029180001001,
  0xa70214ac01968003524b02d0d601111e0094ab01d3ba0151160056dc00dc4b0013bf0254aa031574029101001001,
  0xa402148d01967c03523f02d0ca01110900948c01d3b00151080056d200dc4b0013b502548b031524029181001001]

end CallContext.Automaton
