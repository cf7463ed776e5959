import Stencil.Text.Property.Spelling.Row

set_option autoImplicit false

/-! Readings of frequent ideographs. -/

namespace Stencil.Text.Property

/-- The first half of the readings, each with the ideographs that have it. -/
def readingsA : List (String × String) := [
  ("A", "阿啊"), ("Ai", "爱愛哎矮艾"), ("An", "安按案暗岸"), ("Ao", "奥傲澳"), ("Ba", "八巴把吧爸霸"),
  ("Bai", "百白拜败摆"), ("Ban", "半办板班般版阪辦"), ("Bang", "帮棒邦"), ("Bao", "报包宝保抱暴報寶"), ("Bei", "北被备杯背悲貝"),
  ("Ben", "本笨奔"), ("Bi", "比笔必币碧筆"), ("Bian", "边变便遍編變邊"), ("Biao", "表标標"), ("Bie", "别"),
  ("Bin", "宾滨浜"), ("Bing", "病并冰兵"), ("Bo", "波博播薄"), ("Bu", "不部步布補"), ("Cai", "才菜材财彩財"),
  ("Can", "参餐參"), ("Cang", "藏蔵倉"), ("Cao", "草操"), ("Ce", "测册策"), ("Ceng", "层曾"), ("Cha", "查茶差"),
  ("Chan", "产產産禅"), ("Chang", "常长長场場厂唱昌"), ("Chao", "超朝潮"), ("Che", "车車彻"), ("Chen", "陈晨沉陳"),
  ("Cheng", "成城程称誠"), ("Chi", "吃持池赤尺"), ("Chong", "充虫重崇"), ("Chou", "抽愁"), ("Chu", "出初除处楚處"),
  ("Chuan", "传穿船川傳"), ("Chuang", "窗床创創"), ("Chun", "春纯"), ("Ci", "此次词慈詞"), ("Cong", "从丛従從"),
  ("Cun", "存村"), ("Cuo", "错措錯"), ("Da", "大打达答達"), ("Dai", "代带待戴帶帯"), ("Dan", "但单丹單単"),
  ("Dang", "当党當"), ("Dao", "到道导岛刀倒島導"), ("De", "的得德"), ("Deng", "等灯登燈"), ("Di", "地第低底弟帝"),
  ("Dian", "电点店典電點殿"), ("Diao", "掉调"), ("Ding", "定丁顶"), ("Dong", "东東动冬懂動洞"), ("Dou", "豆斗"),
  ("Du", "都读度独毒渡讀獨"), ("Duan", "短段断端"), ("Dui", "对队對隊"), ("Duo", "多夺"), ("E", "饿恶俄額"),
  ("Er", "二而儿耳兒"), ("Fa", "发法發"), ("Fan", "反饭番飯凡"), ("Fang", "方放房防芳訪"), ("Fei", "非飞费飛"),
  ("Fen", "分份粉"), ("Feng", "风風丰封峰豊"), ("Fo", "佛"), ("Fu", "服父福复府富夫付副負"), ("Gai", "该改概"),
  ("Gan", "感干敢"), ("Gang", "刚港钢剛岡"), ("Gao", "高告搞"), ("Ge", "个各歌個格哥革"), ("Gei", "给給"),
  ("Gen", "根跟"), ("Geng", "更"), ("Gong", "公工共功宫供宮"), ("Gou", "狗够構"), ("Gu", "古故谷顾骨"),
  ("Gua", "瓜"), ("Guai", "怪"), ("Guan", "关管观官館關観"), ("Guang", "光广廣広"), ("Gui", "贵鬼归貴"),
  ("Guo", "国國过果過"), ("Hai", "海孩害"), ("Han", "汉漢汗寒韩韓"), ("Hang", "航"), ("Hao", "好号豪號"),
  ("He", "和河合何喝荷"), ("Hei", "黑"), ("Hen", "很恨"), ("Hong", "红洪紅"), ("Hou", "后候後"), ("Hu", "湖户虎胡互"),
  ("Hua", "花话画华化話畫華"), ("Huai", "坏怀"), ("Huan", "还欢换環歡"), ("Huang", "黄皇黃"), ("Hui", "会回會灰"),
  ("Hun", "婚混"), ("Huo", "火活或货"), ("Ji", "机几记级集己急计季記機幾績"), ("Jia", "家加价假甲佳"),
  ("Jian", "见间建件健简見間"), ("Jiang", "江将讲講將"), ("Jiao", "叫教交角脚較"), ("Jie", "界接街结节姐解介結節"),
  ("Jin", "今金进近紧進錦"), ("Jing", "京经景静精竟經"), ("Jiu", "九就酒久旧救"), ("Ju", "句局举具居"), ("Jue", "觉决覺"),
  ("Jun", "军君郡"), ("Kai", "开開"), ("Kan", "看刊"), ("Kao", "考"), ("Ke", "可客科课克刻課"), ("Kong", "空孔"),
  ("Kou", "口"), ("Ku", "苦哭库"), ("Kuai", "快块塊"), ("Kuang", "况狂"), ("La", "拉"), ("Lai", "来來"),
  ("Lan", "蓝兰藍蘭"), ("Lao", "老劳"), ("Le", "乐楽樂"), ("Lei", "类雷累"), ("Leng", "冷"),
  ("Li", "里力理立历李利礼離裏"), ("Lian", "连联练脸聯"), ("Liang", "两亮量良兩"), ("Liao", "了料"), ("Lin", "林临"),
  ("Ling", "零领令灵"), ("Liu", "六流留刘劉"), ("Long", "龙龍竜"), ("Lou", "楼"), ("Lu", "路陆绿鹿律緑"),
  ("Lun", "论"), ("Luo", "罗落"), ("Ma", "妈马吗馬嗎麻"), ("Mai", "买卖買賣麦")]

/-- The second half of the readings. -/
def readingsB : List (String × String) := [
  ("Man", "满慢滿"), ("Mang", "忙"), ("Mao", "猫毛貓"), ("Me", "么麼"), ("Mei", "美没每妹梅沒"), ("Men", "们门門們"),
  ("Meng", "梦"), ("Mi", "米密秘"), ("Mian", "面免"), ("Min", "民"), ("Ming", "明名命鸣"), ("Mo", "末莫魔"),
  ("Mu", "木目母"), ("Na", "那拿哪"), ("Nan", "男南难難"), ("Nao", "脑"), ("Ne", "呢"), ("Nei", "内內"),
  ("Neng", "能"), ("Ni", "你"), ("Nian", "年念"), ("Niang", "娘"), ("Niao", "鸟鳥"), ("Nin", "您"),
  ("Niu", "牛"), ("Nong", "农"), ("Nu", "女努"), ("Nuan", "暖"), ("Pa", "怕"), ("Peng", "朋"),
  ("Pi", "皮"), ("Pian", "片篇"), ("Piao", "票"), ("Ping", "平瓶"), ("Po", "破"), ("Qi", "七起气期其奇骑氣気"),
  ("Qian", "前千钱錢"), ("Qiang", "强強"), ("Qiao", "桥橋"), ("Qing", "请情青清轻請"), ("Qiu", "球秋求"),
  ("Qu", "去区曲區"), ("Quan", "全权泉"), ("Que", "却确"), ("Ran", "然"), ("Rang", "让讓"), ("Re", "热"),
  ("Ren", "人认任認"), ("Ri", "日"), ("Rong", "容"), ("Rou", "肉"), ("Ru", "如入"), ("San", "三"),
  ("Se", "色"), ("Sen", "森"), ("Sha", "沙杀"), ("Shan", "山善"), ("Shang", "上商伤"), ("Shao", "少烧"),
  ("She", "社设"), ("Shei", "谁誰"), ("Shen", "身什神深"), ("Sheng", "生声省胜聲"),
  ("Shi", "是时十世事使市师食石式室识試時師実實"), ("Shou", "手首受收"), ("Shu", "书数树術書數"), ("Shui", "水睡"),
  ("Shun", "顺"), ("Shuo", "说說"), ("Si", "四死思司私"), ("Song", "送松"), ("Su", "苏素诉"), ("Suan", "算"),
  ("Sui", "岁虽随"), ("Sun", "孙"), ("Suo", "所"), ("Ta", "他她它"), ("Tai", "太台泰"), ("Tan", "谈"),
  ("Tang", "堂糖汤唐"), ("Tao", "桃"), ("Te", "特"), ("Ti", "体题提題體"), ("Tian", "天田"), ("Tiao", "条跳條"),
  ("Tie", "铁鉄鐵"), ("Ting", "听停庭聽"), ("Tong", "同通统"), ("Tou", "头投頭"), ("Tu", "图土突圖図"),
  ("Wai", "外"), ("Wan", "完万晚玩萬"), ("Wang", "王往望网忘網"), ("Wei", "为位未味卫為"), ("Wen", "文问闻温問"),
  ("Wo", "我"), ("Wu", "五无午物屋武無"), ("Xi", "西习喜系希息習"), ("Xia", "下夏"), ("Xian", "先现线县現線"),
  ("Xiang", "想向相香象响響"), ("Xiao", "小笑校消"), ("Xie", "些写谢鞋寫謝"), ("Xin", "新心信"), ("Xing", "行姓星性兴"),
  ("Xiong", "兄雄"), ("Xiu", "休修"), ("Xu", "许需須"), ("Xue", "学學雪血"), ("Ya", "亚鸭亞"), ("Yan", "言眼研烟严"),
  ("Yang", "样羊阳洋樣陽"), ("Yao", "要药"), ("Ye", "也业夜野页業"), ("Yi", "一以意医易已衣艺議驛駅醫"), ("Yin", "因音银印"),
  ("Ying", "应英影"), ("Yong", "用永"), ("You", "有又友右由游"), ("Yu", "语雨鱼与玉語魚"), ("Yuan", "元远园原员院遠園圓"),
  ("Yue", "月越约"), ("Yun", "云运"), ("Zai", "在再"), ("Zao", "早"), ("Ze", "则"), ("Zen", "怎"),
  ("Zeng", "增"), ("Zhan", "站战"), ("Zhang", "张章張"), ("Zhao", "找照"), ("Zhe", "这者着這"),
  ("Zhen", "真镇"), ("Zheng", "正政整"), ("Zhi", "只知之直纸指治智"), ("Zhong", "中种钟终众種"), ("Zhou", "州周"),
  ("Zhu", "主住注祝株"), ("Zhuan", "转专"), ("Zhuang", "装"), ("Zhun", "准"), ("Zi", "子字自紫"),
  ("Zong", "总"), ("Zou", "走"), ("Zu", "足族组組"), ("Zui", "最"), ("Zuo", "做作左坐昨")]

end Stencil.Text.Property
