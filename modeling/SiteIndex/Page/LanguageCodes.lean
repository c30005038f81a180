import SiteIndex.Text.Blank

/-!
# Codes of languages

The codes of ISO 639: those of two letters (ISO 639-1) and those of three letters (ISO 639-3).
-/

namespace SiteIndex.Page

/-- The codes of two letters. -/
def shortCodes : List (List Char) := Text.chunks (
  "aa ab ae af ak am an ar as av ay az ba be bg bi bm bn bo br bs ca ce ch co cr cs cu cv cy da de
   dv dz ee el en eo es et eu fa ff fi fj fo fr fy ga gd gl gn gu gv ha he hi ho hr ht hu hy hz ia
   id ie ig ii ik io is it iu ja jv ka kg ki kj kk kl km kn ko kr ks ku kv kw ky la lb lg li ln lo
   lt lu lv mg mh mi mk ml mn mr ms mt my na nb nd ne ng nl nn no nr nv ny oc oj om or os pa pi pl
   ps pt qu rm rn ro ru rw sa sc sd se sg sh si sk sl sm sn so sq sr ss st su sv sw ta te tg th ti
   tk tl tn to tr ts tt tw ty ug uk ur uz ve vi vo wa wo xh yi yo za zh zu").toList

/-- The codes of three letters: two letters, a hyphen, and the letters that may follow them. -/
def longCodes : List (List Char) := Text.chunks (
  "aa-abcdefghiklnopqrstuwxz ab-abcdefghijklmnopqrstuvwxyz ac-abdefhiklmnpqrstuvwxyz
   ad-abdefghijlnoqrstuwxyz ae-abcdeklmnqrsuwyz af-bdeghiknoprstuz ag-abcdefghijklmnoqrstuvwxyz
   ah-abghiklmnoprst ai-abcdefghijklmnopqrtwxy aj-aginpsuwz ak-abcdefghijklmopqrstuvwxyz
   al-acdefhijklmnopqrstuwxyz am-abcefghijklmnopqrstuvwxyz an-abcdefghijklmnopqrstuvwxyz
   ao-abcdefgijklmnrstuxz ap-bcdefghijklmnopqrstuvwxyz aq-cdgkmnprtz ar-abcdeghijklnopqrsuvwxyz
   as-abcdefghijklmnopqrstuvwxyz at-abcdeghijklmnopqrstuvwxyz au-abcdefghijklmnopqrstuwxyz
   av-abdeiklmnostuv aw-abceghikmnorstuvwxy ax-begklmx ay-abcdeghiklmnopqrstuyz az-abdegjmnotz
   ba-abcefghjklmnoprsuvwxy bb-abcdefghijklmnopqrstuvwxy bc-abcdefghijklmnopqrstuvwyz
   bd-abcdefghijklmnopqrstuvwxyz be-abcdefghijklmnopqstuvwxyz bf-abcdefghijklmnopqrstuwxyz
   bg-abcdefgijklnopqrstuvwxyz bh-abcdefghijlmnopqrstuvwxyz bi-abdefgjklmnopqrstuvwxyz
   bj-abcefghijklmnoprstuvwxyz bk-acdfghijklmnopqrstuvwxyz bl-abcdefhijklmnopqrstvwxyz
   bm-abcdefghijklmnopqrstuvwxz bn-abcdefgijklmnopqrsuvwxyz bo-abdefghijklmnopqrstuvwxyz
   bp-acdeghijklmnopqrstuvwxyz bq-abcdfghijklmnopqrstuvwxyz br-abcdefghijklmnopqrstuvwxyz
   bs-abcefghijklmnopqrstuvwxy bt-acdefghijmnopqrstuvwxyz bu-abcdefghijklmnopqstuvwxyz
   bv-abcdefghijklmnopqrtuvwxyz bw-abcdefghijklmnopqrstuwxyz bx-abcdefghijklmnopqrsuvwz
   by-abcdefghijklmnopqrstvwxz bz-abcdefghijklmnopqrstuvwxyz ca-abcdefghjklmnopqrstvwxyz
   cb-bcdgijklnoqrstuvwy cc-cdeghjlmopr cd-aefhijmnorsyz ce-abgknsty cf-adgm cg-acgk
   ch-abcdefghjklmnopqrtuvwxyz ci-abcdehkmnprwy cj-aehikmnopsvy ck-bhlmnoqrstuvxyz
   cl-acdehijklmotuwy cm-aegilmnorst cn-abcghiklopqrstuwx co-abcdefghjklmnopqrstuvwxz
   cp-abcginosuxy cq-d cr-abcdefghijklmnoqrstvwxyz cs-abcdefghijklmnopqrstvwxyz ct-acdeghlmnopstuyz
   cu-abchijkloqprtuvwxy cv-gn cw-abdegt cx-h cy-abmo cz-hknot da-acdeghijklmnoqrsuvwxz
   db-abdefgijlmnopqrtuvwy dc-cr dd-adegijnorsw de-cdefghiklmnpqrsuvz dg-abcdeghiklnorstwxz
   dh-dgilmnorsuvwx di-abcdfghijklmnopqrsuvwxyz dj-abcdefijkmnoruw dk-agkrsx dl-gkmn
   dm-abcdefgklmorsuvwxy dn-adegijknrtuvwy do-abcefhiklnopqrstvwxyz dp-p dr-bcdegilnoqstuy
   ds-behiklnoqz dt-abdhikmnoprstuy du-abcefghiklmnopqrsuvwxyz dv-a dw-akrsuwyz dy-abdgimnoruy
   dz-aeglno eb-gkoru ec-rsy ee-e ef-aei eg-almoy eh-su ei-ptv ej-a ek-aegiklmopry el-ehikmloux
   em-abegikmnpqsuwxyz en-abcdfghlmnoqruvwx eo-t ep-io er-aghikorstw es-eghiklmnoqstuy
   et-bchnorstuxz eu-ds ev-ehn ew-eo ex-t ey-ao ez-ae fa-abdfghijklmnoprstuxyz fb-l fc-s fe-r ff-im
   fg-r fi-aefjlnprtw fk-kv fl-ahilnry fm-pu fn-bgi fo-dimnrs fp-e fq-s fr-acdkmopqrsty fs-els
   fu-bcdefhijlmnqrtuvy fv-r fw-ae ga-abcdefghijklmnopqrstuwxyz gb-abdefghijklmnopqrsuvwxyz
   gc-cdeflnrt gd-abcdefghijklmnoqrstux ge-abcdfghijklqsvwxyz gf-kt gg-abdegkltuw gh-acehklnorst
   gi-abcdeghilmnpqrstuwxyz gj-ikmnru gk-adenopu gl-abcdeghjklorsuvwy gm-abdghlmnruvxyz
   gn-abcdeghijklmnoqrtuwz go-abcdefghijklmnopqrstuvwxyz gp-aen gq-ainru gr-abcdghijmnoqrstuvwxyz
   gs-eglmnopsw gt-au gu-abcdefghijklmnopqrstuwxz gv-acefjlmnoprsy gw-abcdefgijmnrtuwx gx-x
   gy-abdefgilmnoryz gz-ain ha-abcdefghijklmnopqrstuvwxyz hb-abnosu hc-ah hd-nsy he-abdghimr hg-mw
   hh-iry hi-abdfghijklnortwx hj-i hk-aehkns hl-abdetu hm-abcdefghijklmnopqrstuvwyz hn-adeghijnosu
   ho-abcdehijlmoprstvwyz hp-os hr-acekmoptuvwxz hs-bhlns ht-iosux hu-bcdefghijklmnopqrstuvwxyz
   hv-ceknv hw-aco hy-aew ia-inr ib-abdeghlmnoruy ic-ahlr id-abcdeiorstu if-abefkmuy ig-beglmnosw
   ih-bipw ii-i ij-cejns ik-ehiklorpstuvwxz il-abegikmopsuv im-ailnorsty in-abdghjlmnopstz io-ruw
   ip-iko iq-uw ir-ehiknruxy is-acdeghiklmnorstu it-abdeiklmorstvwxyz iu-ms iv-bv iw-kmos ix-cl
   iy-aox iz-hmrz ja-abcdefhjklmnoqstuvxyz jb-eijkmnortuw jc-st jd-agt je-behiklnrtu jg-bko jh-is
   ji-abcdeghilmoqtuvy jj-er jk-amoprsu jl-es jm-abcdilnrswx jn-adgijls jo-bdgrsw jp-anr jq-r
   jr-abru js-l ju-abcdhiklmnoprsuwy jv-dn jw-i jy-aey ka-abcdefghijklmnopqstuvwxyz
   kb-abcdeghijklmnopqrstuvwxyz kc-abcdefghijklmnopqrstuvwxyz kd-acdefghijklmnpqrtuwxyz
   ke-abcdefghijklmnopqrstuvwxyz kf-abcdefghijklmnopqrstuvwxyz kg-abefgijklnopqrstuvwxy
   kh-abcdefghjklmnopqrstuvwxyz ki-abcdefghijklmnopqrstuvwxyz kj-abcdeghijklmnopqrstuvxyz
   kk-abcdefghijklmopqrstuvwxyz kl-abcdefghijklmnopqrstuvwxyz km-abcdefghijklmnopqrstuvwxyz
   kn-abcdefgijklmnopqrstuvwxyz ko-acdefghiklmnopqrstuvwyz kp-abcdefghijklmnoqrstuvwxyz
   kq-abcdefghijklmnopqrstuvwxyz kr-abcdefhijklnprstuvwxyz ks-abcdefghijklmnopqrstuvwxyz
   kt-abcdefghijklmnopqstuvwxyz ku-abcdefghijklmnopqrstuvwxyz kv-abcdefghijklmnopqrtuvwxyz
   kw-abcdefghijklmnoprstuvwxyz kx-abcdfhijkmnopqrstvwxyz ky-abcdefghijklmnopqrstuvwxyz
   kz-abcdefgiklmnopqrsuvwxyz la-abcdefghijklmnopqrstuvwxyz lb-bcefgijklmnoqrstuvwxyz lc-cdefhlmpqs
   ld-abdghijklmnopq le-abcdefhijklmnopqrstuvwxyz lf-abn lg-abghiklmnoqrstuz lh-ahilmnpstu
   li-abcdefghjklmnopqrstuvwxyz lj-aeilpwx lk-abcdehijlmnorstuy ll-abcdefghijklmnpqsux
   lm-abcdefghijklnopqruvwxyz ln-abdghijlmnsuwz lo-abcefghijklmnopqrstuvwxyz lp-aenox lq-r
   lr-acegiklmnortvz ls-abcdehilmnoprstvwy lt-cghinostuz lu-abcdefghijklmnopqrstuvwyz lv-aiklsu
   lw-aeghlmostuw lx-m ly-agn lz-hlnz ma-abdefghijklmnqrstuvwxz mb-abcdefhijklmnopqrstuvwxz
   mc-abcdefghijklmnopqrstuvwxyz md-abcdefghijklmnpqrstuvwxyz me-abcdefghijklmnopqrstuvwxyz
   mf-abcdefghijklmnopqrstuvwxyz mg-abcdefghijklmnopqrstuvwyz mh-abcdefgijklmnopqrstuwxyz
   mi-abcdefghijklmnopqrstuwxyz mj-abcdefghijklmnopqrstuvwxyz mk-abcdefgijklmnopqrstuvwxyz
   ml-abcdefghijklmnopqrstuvwxz mm-abcdefghijklmnopqrtuvwxyz mn-abcdefghijklmnpqrsuvwxyz
   mo-abcdeghijkmnopqrstuvwxyz mp-abcdeghijklmnopqrstuvwxyz mq-abcefghijklmnopqrstuvwxyz
   mr-abcdefghijklmnopqrstuvwxyz ms-abcdefghijklmnopqrsuvwxyz mt-abcdefghijklmnopqrstuvwxy
   mu-abcdefghijklmopqrstuvxyz mv-abdefghiklmnopqrstuvwxyz mw-abcefghiklmnopqrstuvwz
   mx-abcdefghijklmnopqrstuvwxyz my-abcefghjklmoprsuvwxyz mz-abcdeghijklmnopqrstuvwxyz
   na-abcdefgjklmnopqrstuvwxyz nb-abcdeghijklmnopqrstuvwy nc-abcdefghijklmnoqrstuxz
   nd-abcdefghijklmnopqrstuvwxyz ne-abcdefghijklmnopqrstuvwxyz nf-adlru ng-abcdeghijklmnpqrstuvwxyz
   nh-abcdefghikmnopqrtuvwxyz ni-abdefghijklmnopqrstuvwxyz nj-abdehijlmnorstuxyz
   nk-abcdefghijkmnopqrstuvwxz nl-acdegijklmoquvwxyz nm-abcdefghijklmnopqrstuvwxyz
   nn-abcdefghijklmnopqrtuvwyz no-acdefghijklmnpqrstuvwyz np-abghilnopsuxy nq-gklmnoqty
   nr-abcefgiklmnprtuxz ns-abcdefghiklmnopqrstuvwxyz nt-degijkmopruwxyz
   nu-acdefghijklmnopqrstuvwxyz nv-hmo nw-abcegimorwxy nx-adegiklmnoqrx
   ny-abcdefghijklmnopqrstuvwxy nz-abdikmrsuyz oa-acrv ob-iklmortu oc-ahimou od-adktu of-osu
   og-bcegou oh-tu oi-aen oj-bcgipsvw ok-abcdeghijklmnorsuvxz ol-abdekmortu om-abcgiklnoprtuwxy
   on-abegijknoprsuwx oo-dgnrs op-akmoty or-acegihmnorstuvwxyz os-acdinopstux ot-abdeiklmnqrstuwxyz
   ou-abeim ov-d ow-il oy-bdmy oz-m pa-bcdefghiklmnopqrstuvwxyz pb-bcefghilmnoprstuvyz
   pc-abcdefghijklmnpw pd-acinotu pe-abdefghijklmopqsvxyz pf-ael pg-adgiklnsuyz ph-adghjklmnoqrtuvw
   pi-abcdefghijlmnoprstuvwxyz pj-t pk-abcghnoprstu pl-abcdeghklnoqrstuvwyz pm-abdefhijlmnoqrstwxyz
   pn-abcdeghijklmnopqrstuvwxyz po-cefghiklmnopqrstvwxy pp-eiklmnopqstu pq-am
   pr-cdefghiklmnoqrstuwxz ps-acdeghilnopqrstuwy pt-ahinopqrtuvwy pu-abcdefgijmopqrstuwxy
   pw-abgimnorw px-m py-emnsuxy pz-ehn qu-abcdefghiklmnpqrsvwxyz qv-acehijlmnopswyz qw-achmst
   qx-achlnopqrstuw qy-ap ra-abcdfghijklmnopqrstuvwxyz rb-bklp rc-f rd-b re-abegijlmnrsty
   rg-aeknrsu rh-gp ri-abflmnrtu rj-gis rk-abhimtw rm-abcdefghiklmnopqstuvwxyz rn-bdglnprw
   ro-bcdefghlmnoprtuw rp-nt rr-imot rs-bklmnw rt-chmw ru-bcefghiknopqstuyz rw-aklmor rx-dw ry-nsu
   rz-h sa-abcdefghjkmnoqrstuvwxyz sb-abcdefghijklmnopqrstuvwxyz sc-bdefghiklnopqstuvwx
   sd-abcefghjklnopqrstuxz se-abcdefghijklnopqrstuvwyz sf-bemsw sg-abcdeghijkmprstuwxyz
   sh-abcdeghijklmnopqrstuvwxyz si-abdefghijklmnpqrsuvwxyz sj-abdegklmnoprstuw
   sk-abcdefghijmnopqrstuvwxyz sl-acdefghijklmnpqrstuvwxyz sm-abcefghjklmnopqrstuvwxyz
   sn-acdefgijklmnopqrsuvwxyz so-abcdeghijklmopqrstuvwxyz sp-abcdegiklmnopqrstuvxy
   sq-ahijkmnoqrstux sr-abcdefghiklmnopqrstuvwxyz ss-bcdefghijklmnopqrstuvwxyz
   st-abdefghijklmnopqrstuvwy su-abcegijknoqrstvwxyz sv-abcekmsx sw-abcefghijklmnopqrstuvwxy
   sx-bcegklmnorsuw sy-abciklmnorswxy sz-abcdeglnpsvwy ta-abcdefghjklmnopqrstuvwxyz
   tb-acdefghijklmnoprstuvwxyz tc-abcdefghiklmnopqstuwxyz td-abcdefghijklmnoqrstvxy
   te-abcdefghijklmnopqrstuvwxyz tf-inort tg-abcdefhijklnopqrstuvwxyz th-adefhiklmnpqrstuvwyz
   ti-acdfghijklmnopqrstuvwxyz tj-agijlmnopsuw tk-abdefglmnpqrstuvwxz tl-abcdfghijklmnopqrstuvxy
   tm-abcdefghijklmnoqrstuvwyz tn-abcdeghiklmnopqrstuvwxyz to-bcdfghijklmnopqrsuvwxyz
   tp-acefgijklmnopqrtuvxyz tq-blmnopqrtuw tr-abcdefghijlmnopqrstuvwxyz
   ts-abcdeghijklmnopqrstuvwxyz tt-abcdefghijklmnopqrstuvwyz tu-abcdefghijklmnoqrsuvxyz
   tv-adeiklmnostuwxy tw-abcdefghilmnopqrtuwxy tx-abceghijmnoqrstuxy ty-aehijlnprstuvxyz
   tz-ahjlmnox ua-mnr ub-ailmruy ud-aegijlmu ue-s uf-i ug-abehnoy uh-an ui-gsv uj-i
   uk-aghiklpqrsuvwy ul-abcefiklmnuw um-abcdgimnoprsu un-adegikmnpruxz uo-n up-iv
   ur-abcdefghiklmnoprtuvwxyz us-ahikpsu ut-aehpru uu-mr uv-ehl uw-a uy-a uz-bns
   va-aefghijlmnoprsuvy vb-bk ve-cdlmnopr vg-rt vi-cdefglnstv vj-k vk-ajklmnoptuz vl-ps
   vm-abcdefghijklmpqrsuvwxyz vn-kmp vo-lrt vr-aost vs-ilv vt-o vu-mnt vw-a
   wa-abcdefghijlmnopqrstuvwxyz wb-abefhijklmpqrstvw wc-ai wd-dgjkuy we-acdghimoprstuw wf-g
   wg-abgiouy wh-agku wi-bcefghijklmnruvy wj-ai wk-abdlruwy wl-aceghiklmnorsuvwxy
   wm-abcdeghimnostwx wn-bcdegikmnopuwy wo-abcdefgiklmnorswy wp-c wr-bghiklmnoprsuvwxyz ws-agikrsuv
   wt-bfhikmw wu-abdhlmnrtuvxy ww-aborw wx-aw wy-abimnry xa-abcdegijklmnopqrstuvwy
   xb-bcdegijmnoprwy xc-bceghlmnortuvwy xd-ackmoqy xe-bdglmprstu xf-a xg-abdfgilmruw xh-acdemortuv
   xi-bilnrsvy xj-bt xk-abcdefgijklnopqrstuvwxyz xl-abcdeginopsuy xm-abcdefghjklmnopqrstuvwxyz
   xn-abdghijkmnoqrstuyz xo-cdgikmnoprw xp-abcdefghijklmnopqrstuvwxyz xq-at xr-abdegimnrtuw
   xs-abcdefhijlmnopqrsuvy xt-abcdeghijlmnopqrstuvwyz xu-abdgjlmnoprtu xv-einos xw-acdegjklortw
   xx-bkmrt xy-abjklty xz-hmp ya-abcdefghijklmnopqrstuvwxyz yb-abehijklmnoxy yc-hlnp yd-adegk
   ye-aceijlrstuvy yg-ailmprsuw yh-adls yi-adfghijklmnpqrstuvxz yk-agiklmnortuy yl-abegilmnoruy
   ym-bcdeghiklmnopqrsxz yn-abdegklnoqsu yo-bgiklmnrtxy yp-abghmnopz yr-abeklmnoswy ys-cdglmnoprsy
   yt-alpwy yu-abcdefgijklmnpqrtwxyz yv-at yw-aglnqrtuw yx-aglmuy yy-ruz yz-gk
   za-abcdefghijklmnopqrstuvwxyz zb-aceltuw zc-ahd zd-j ze-aghmn zg-abhmnr zh-abdinow zi-abklmnrwz
   zk-abdghknoprtuvz zl-ajmnqu zm-abcdefghijklmnopqrstuvwxyz zn-aeks zo-chmoqrs
   zp-abcdefghijklmnopqrstuvwxyz zq-e zr-gnops zs-aklmru zt-eglmnpqstuxy zu-ahlmny zw-a zx-x
   zy-bgjnp zz-aj").toList

/-- The letters are a code of two letters. -/
def isShortCode (code : List Char) : Bool := shortCodes.contains code

/-- The letters are a code of three letters. -/
def isLongCode : List Char → Bool
  | [a, b, c] => longCodes.any fun row => [a, b, '-'].isPrefixOf row && (row.drop 3).contains c
  | _ => false

end SiteIndex.Page
